/-
# Re-indentation rebuilds the blocks

The lines of a program may lie in one tag or in many, with blanks around them and blank lines between
them.  A tag of code is no more than its lines: the generator goes through directly consecutive tags as
through the lines in them, and blank lines do nothing.  So the code that is generated is the code that
the program stands for, however its lines are put into tags.

* `Generator.run_codeTags`: tags of code are the lines in them;
* `generate_program`: the code of a program.
-/
import Mathlib.Tactic.Common
import Mathlib.Tactic.Lemma
import ViewEngine.Proofs.Code.Program
import ViewEngine.Proofs.Code.Steps
import ViewEngine.Proofs.Markup.Pieces
import ViewEngine.Proofs.Text.Lines

namespace ViewEngine

/-! ## Lines in tags -/

/-- Directly consecutive tags of code with the given insides. -/
def codeTags (insides : List Text) : Text :=
  insides.flatMap fun i => Marker.openEval.text ++ (i ++ Marker.close.text)

/-- The lines in the insides of tags, without blanks at their ends, and without blank lines. -/
def writtenLines (insides : List Text) : List Text :=
  (insides.flatMap fun i => (Text.cutAtLineFeeds i).map Text.strip).filter (· ≠ [])

/-- The pieces of tags of code. -/
def codeTagPieces (insides : List Text) : List (Text.Piece Marker) :=
  insides.flatMap fun i =>
    [.found .openEval Marker.openEval.text, .plain i, .found .close Marker.close.text]

lemma pieces_codeTags {insides : List Text} (h : ∀ i ∈ insides, Inside i) :
    Text.pieces Marker.first? (codeTags insides) = codeTagPieces insides := by
  induction insides with
  | nil => rfl
  | cons i is ih =>
    obtain ⟨hi, his⟩ := List.forall_mem_cons.1 h
    have hcut := pieces_inside .openEval .close rfl hi (codeTags is)
    rw [codeTags, List.flatMap_cons, List.append_assoc, List.append_assoc]
    show Text.pieces Marker.first? (_ ++ (i ++ (_ ++ codeTags is))) = _
    rw [hcut, ih his]
    rfl

lemma isCodeLine_of_writtenLines {insides : List Text} (h : ∀ i ∈ insides, '\r' ∉ i) :
    ∀ l ∈ writtenLines insides, IsCodeLine l := by
  intro l hl
  obtain ⟨hl, hne⟩ := List.mem_filter.1 hl
  obtain ⟨i, hi, hl⟩ := List.mem_flatMap.1 hl
  obtain ⟨raw, hraw, rfl⟩ := List.mem_map.1 hl
  obtain ⟨hfeed, hpart⟩ := Text.mem_cutAtLineFeeds hraw
  obtain ⟨u, v, huv⟩ := Text.exists_append_strip raw
  have hstrip : ∀ c ∈ Text.strip raw, c ∈ raw := by
    intro c hc
    rw [huv]
    simp [hc]
  exact {
    ne_nil := by simpa using hne
    no_feed := fun hc => hfeed (hstrip _ hc)
    no_return := fun hc => h i hi (hpart.subset (hstrip _ hc)) }

lemma cutAtLineFeeds_feed (t : Text) :
    Text.cutAtLineFeeds (t ++ ['\n']) = Text.cutAtLineFeeds t ++ [[]] := by
  induction t with
  | nil => rfl
  | cons c t ih =>
    rw [List.cons_append, Text.cutAtLineFeeds, Text.cutAtLineFeeds, ih]
    split
    · rfl
    · rcases hcut : Text.cutAtLineFeeds t with _ | ⟨l, ls⟩
      · exact absurd hcut (Text.cutAtLineFeeds_ne_nil t)
      · rfl

/-- The line feed that closes a comment only adds a blank line. -/
lemma written_closeComment (t : Text) :
    ((Text.cutAtLineFeeds (closeComment t)).map Text.strip).filter (· ≠ []) =
      ((Text.cutAtLineFeeds t).map Text.strip).filter (· ≠ []) := by
  unfold closeComment
  split
  · have hblank : Text.strip [] = [] := rfl
    rw [cutAtLineFeeds_feed, List.map_append, List.filter_append, List.map_singleton, hblank]
    simp
  · rfl

namespace Generator

variable {g g' : Generator}

/-- Lines with consecutive numbers. -/
def numbered (n : Int) : List Text → List (Text × Int)
  | [] => []
  | l :: ls => (l, n) :: numbered (n + 1) ls

lemma codeLines_eq_feed (ls : List Text) (n : Int) : g.codeLines ls n = g.feed (numbered n ls) := by
  induction ls generalizing g n with
  | nil => rfl
  | cons l ls ih =>
    rw [codeLines, numbered, feed]
    cases g.codeLine l n with
    | error e => rfl
    | ok g₁ => exact ih (n + 1)

lemma map_filter_numbered (n : Int) (ls : List Text) :
    ((numbered n ls).filter fun l => Text.strip l.1 ≠ []).map (fun l => Text.strip l.1) =
      (ls.map Text.strip).filter (· ≠ []) := by
  induction ls generalizing n with
  | nil => rfl
  | cons l ls ih =>
    by_cases hl : Text.strip l = []
    · rw [numbered, List.filter_cons_of_neg (by simpa using hl), ih, List.map_cons,
        List.filter_cons_of_neg (by simpa using hl)]
    · rw [numbered, List.filter_cons_of_pos (by simpa using hl), List.map_cons, ih, List.map_cons,
        List.filter_cons_of_pos (by simpa using hl)]

/-- Blank lines do nothing. -/
lemma feed_filter (ls : List (Text × Int)) :
    g.feed (ls.filter fun l => Text.strip l.1 ≠ []) = g.feed ls := by
  induction ls generalizing g with
  | nil => rfl
  | cons l ls ih =>
    by_cases hl : Text.strip l.1 = []
    · rw [feed_cons (codeLine_blank l.2 hl), List.filter_cons_of_neg (by simpa using hl), ih]
    · rw [List.filter_cons_of_pos (by simpa using hl), feed, feed]
      cases g.codeLine l.1 l.2 with
      | error e => rfl
      | ok g₁ => exact ih

lemma addCode_setMode (g : Generator) (l : Text) (n : Int) (mode : Mode) :
    ({ g with mode } : Generator).addCode l n = { g.addCode l n with mode } := by
  rw [addCode_eq_ite, addCode_eq_ite]

/-- A line of code is read in the same way whatever the mode is. -/
lemma codeLine_setMode {raw : Text} {n : Int} (mode : Mode) (h : g.codeLine raw n = .ok g') :
    ({ g with mode } : Generator).codeLine raw n = .ok { g' with mode } := by
  have hclose : ∀ g₁, g.closeBlock n = .ok g₁ →
      ({ g with mode } : Generator).closeBlock n = .ok { g₁ with mode } := by
    intro g₁ h₁
    unfold closeBlock at h₁ ⊢
    dsimp only at h₁ ⊢
    split at h₁
    · cases h₁
      rfl
    · cases h₁
  unfold codeLine at h ⊢
  dsimp only at h ⊢
  split at h
  · next hblank =>
    rw [if_pos hblank]
    cases h
    rfl
  next hblank =>
  rw [if_neg hblank]
  split at h
  · next hp =>
    rw [if_pos hp, addCode_setMode]
    cases h
    rfl
  next hp =>
  rw [if_neg hp]
  split at h
  · next hend =>
    rw [if_pos hend]
    exact hclose _ h
  next hend =>
  rw [if_neg hend]
  split at h
  · next hclause =>
    rw [if_pos hclause]
    rcases hclosed : g.closeBlock n with _ | g₁
    · rw [hclosed] at h
      cases h
    · rw [hclosed] at h
      cases h
      rw [hclose _ hclosed]
      exact congrArg Except.ok (addCode_setMode g₁ _ n mode)
  · next hclause =>
    rw [if_neg hclause, addCode_setMode]
    cases h
    rfl

lemma feed_setMode {ls : List (Text × Int)} (mode : Mode) (h : g.feed ls = .ok g') :
    ({ g with mode } : Generator).feed ls = .ok { g' with mode } := by
  induction ls generalizing g with
  | nil =>
    cases h
    rfl
  | cons l ls ih =>
    rw [feed] at h
    rcases hline : g.codeLine l.1 l.2 with _ | g₁
    · rw [hline] at h
      cases h
    · rw [hline] at h
      rw [feed_cons (codeLine_setMode mode hline)]
      exact ih h

lemma feed_append_ok {ls ls' : List (Text × Int)} (h : g.feed (ls ++ ls') = .ok g') :
    ∃ g₁, g.feed ls = .ok g₁ ∧ g₁.feed ls' = .ok g' := by
  induction ls generalizing g with
  | nil => exact ⟨g, rfl, h⟩
  | cons l ls ih =>
    rw [List.cons_append, feed] at h
    rcases hline : g.codeLine l.1 l.2 with _ | g₁
    · rw [hline] at h
      cases h
    · rw [hline] at h
      obtain ⟨g₂, h₁, h₂⟩ := ih h
      exact ⟨g₂, by rw [feed_cons hline, h₁], h₂⟩

/-- Lines of code change neither the mode nor what is trimmed. -/
lemma feed_frame {ls : List (Text × Int)} (h : g.feed ls = .ok g') :
    g'.mode = g.mode ∧ g'.trim = g.trim := by
  induction ls generalizing g with
  | nil =>
    cases h
    exact ⟨rfl, rfl⟩
  | cons l ls ih =>
    rw [feed] at h
    rcases hline : g.codeLine l.1 l.2 with _ | g₁
    · rw [hline] at h
      cases h
    rw [hline] at h
    obtain ⟨hmode, htrim⟩ := ih h
    rcases codeLine_cases hline with ⟨-, rfl⟩ | ⟨-, hclosed⟩ | ⟨-, d, rfl⟩
    · exact ⟨hmode, htrim⟩
    · obtain ⟨-, rfl⟩ := closeBlock_eq hclosed
      exact ⟨hmode, htrim⟩
    · rw [addCode_eq_ite] at hmode htrim
      exact ⟨hmode, htrim⟩

/-- A tag of code is its lines. -/
lemma run_codeTag {i : Text} {n : Int} {rest : List (Text.Piece Marker)} {g₁ : Generator}
    (hfeed : g.feed (numbered n (Text.cutAtLineFeeds (closeComment i))) = .ok g₁) :
    run g (Token.ofPieces n (.found .openEval Marker.openEval.text :: .plain i ::
      .found .close Marker.close.text :: rest)) =
      run { g₁ with mode := .plain, trim := false }
        (Token.ofPieces (n + Text.lineFeeds i) rest) := by
  have htext : ({ g with mode := .eval } : Generator).token ⟨.text, i, n⟩ =
      .ok { g₁ with mode := .eval } := by
    show codeLines _ _ _ = _
    rw [codeLines_eq_feed]
    exact feed_setMode .eval hfeed
  have hzero : ∀ k : Int, k + Text.lineFeeds Marker.openEval.text = k := fun k => Int.add_zero k
  have hzero' : ∀ k : Int, k + Text.lineFeeds Marker.close.text = k := fun k => Int.add_zero k
  simp only [Token.ofPieces, Token.ofPiece, Text.Piece.text, hzero, hzero']
  have hopen : g.token ⟨.tag .openEval, Marker.openEval.text, n⟩ = .ok { g with mode := .eval } := rfl
  have hclose : ∀ k, ({ g₁ with mode := .eval } : Generator).token
      ⟨.tag .close, Marker.close.text, k⟩ = .ok { g₁ with mode := .plain, trim := false } :=
    fun _ => rfl
  rw [run, hopen]
  show run { g with mode := .eval } _ = _
  rw [run_token rfl htext, run_token rfl (hclose _)]

/-- **Tags of code are the lines in them**, whatever the numbers of the lines are. -/
lemma run_codeTags (insides : List Text) (n : Int) :
    ∃ ls : List (Text × Int), ls.map (fun l => Text.strip l.1) = writtenLines insides ∧
      ∀ g g' : Generator, g.mode = .plain → g.trim = false → g.feed ls = .ok g' →
        run g (Token.ofPieces n (codeTagPieces insides)) = .ok g' := by
  induction insides generalizing n with
  | nil =>
    refine ⟨[], rfl, fun g g' _ _ h => ?_⟩
    exact h
  | cons i is ih =>
    obtain ⟨ls, hls, hrun⟩ := ih (n + Text.lineFeeds i)
    let inner := numbered n (Text.cutAtLineFeeds (closeComment i))
    refine ⟨inner.filter (fun l => Text.strip l.1 ≠ []) ++ ls, ?_, ?_⟩
    · rw [List.map_append, hls, map_filter_numbered]
      simp only [writtenLines, List.flatMap_cons, List.filter_append, written_closeComment]
    · intro g g' hmode htrim hfeed
      obtain ⟨g₁, hinner, hrest⟩ := feed_append_ok hfeed
      rw [feed_filter] at hinner
      obtain ⟨hmode₁, htrim₁⟩ := feed_frame hinner
      have hsame : ({ g₁ with mode := .plain, trim := false } : Generator) = g₁ := by
        rw [← hmode, ← htrim, ← hmode₁, ← htrim₁]
      rw [codeTagPieces, List.flatMap_cons]
      show run g (Token.ofPieces n (.found .openEval _ :: .plain i :: .found .close _ ::
        codeTagPieces is)) = _
      rw [run_codeTag hinner, hsame]
      exact hrun g₁ g' (hmode₁.trans hmode) (htrim₁.trans htrim) hrest

end Generator

/-- **Re-indentation rebuilds the blocks.**  Write the lines of a program into directly consecutive tags
of code, in any distribution over the tags, with any blanks around the lines and any blank lines
between them.  Code is generated, and it is the code that the program stands for: every statement is
four spaces deeper than the block around it, and a block begins with the statement that does nothing.
No block and no bracket is left open. -/
theorem generate_program {p : Program} (hp : p.WellFormed) {insides : List Text}
    (hinside : ∀ i ∈ insides, Inside i ∧ '\r' ∉ i) (hlines : writtenLines insides = p.lines)
    (name : Option Text) :
    ∃ last, Generator.run {} (tokens (codeTags insides)) = .ok last ∧
      last.listing.depth = 0 ∧ last.pending = [] ∧ last.mode = .plain ∧
      generate (codeTags insides) name = .ok (last.listing.toGenerated name (codeTags insides)) ∧
      last.listing.code = p.code 0 := by
  have hcode : ∀ l ∈ p.lines, IsCodeLine l :=
    hlines ▸ isCodeLine_of_writtenLines fun i hi => (hinside i hi).2
  obtain ⟨ls, hls, hrun⟩ := Generator.run_codeTags insides 1
  obtain ⟨last, hfeed, hmode, -, hdepth, hpending, hlast⟩ :=
    p.writes_lines 0 hp hcode {} ls (hls.trans hlines) rfl rfl
  have htokens : Generator.run {} (tokens (codeTags insides)) = .ok last := by
    rw [tokens, pieces_codeTags fun i hi => (hinside i hi).1]
    exact hrun {} last rfl rfl hfeed
  refine ⟨last, htokens, hdepth, hpending, hmode, ?_, ?_⟩
  · rw [generate, htokens]
  · rw [hlast]
    rfl

/-- A choice with a header on two lines, comments with colons, a statement on two lines, an empty
block, and lines of different statements in one tag. -/
theorem generate_program_choice :
    let header : List Text := ["if (a or # b:", "b):"]
    let p : Program := .compound header (.simple ["x = [1,", "2]"] .done)
      (.clause ["else: #:"] .done .done) "end # if" (.simple ["y = 'end'"] .done)
    let insides : List Text := [" if (a or # b:\n\n    b): ", " x = [1,\n  2] ", "\nelse: #: ",
      " end # if\n y = 'end' "]
    p.WellFormed ∧ (∀ i ∈ insides, Inside i ∧ '\r' ∉ i) ∧ writtenLines insides = p.lines ∧
      ∃ last, Generator.run {} (tokens (codeTags insides)) = .ok last ∧
        last.listing.code =
          "if (a or # b:\nb):\n    pass\n    x = [1,\n    2]\nelse: #:\n    pass\ny = 'end'\n" := by
  intro header p insides
  have hp : p.WellFormed := by
    refine ⟨⟨by decide +kernel, ?_⟩, ⟨?_, trivial⟩, ?_, by decide +kernel, ?_, trivial⟩
    · exact ⟨_, rfl, by decide +kernel⟩
    · exact ⟨by decide +kernel, by decide +kernel, _, rfl, by decide +kernel⟩
    · exact ⟨⟨by decide +kernel, _, rfl, by decide +kernel⟩, trivial, trivial⟩
    · exact ⟨by decide +kernel, by decide +kernel, _, rfl, by decide +kernel⟩
  have hinside : ∀ i ∈ insides, Inside i ∧ '\r' ∉ i := by
    have hunmarked : ∀ i ∈ insides, Marker.Unmarked i := by
      intro i hi m
      have hall : ∀ i ∈ insides, ∀ m ∈ Marker.all, ¬ m.text <:+: i := by decide +kernel
      exact hall i hi m m.mem_all
    intro i hi
    have hends : ∀ i ∈ insides, (i.head? = some ' ' ∨ i.head? = some '\n') ∧
        i.getLast? = some ' ' ∧ '\r' ∉ i := by decide +kernel
    obtain ⟨hfront, hlast, hreturn⟩ := hends i hi
    obtain ⟨u, hu⟩ := List.getLast?_eq_some_iff.1 hlast
    refine ⟨⟨hunmarked i hi, ?_, u, ' ', hu, .inl rfl⟩, hreturn⟩
    rcases hfront with hfront | hfront
    · obtain ⟨v, hv⟩ := List.head?_eq_some_iff.1 hfront
      exact ⟨' ', v, hv, .inl rfl⟩
    · obtain ⟨v, hv⟩ := List.head?_eq_some_iff.1 hfront
      exact ⟨'\n', v, hv, .inr rfl⟩
  have hlines : writtenLines insides = p.lines := by decide +kernel
  obtain ⟨last, hrun, -, -, -, -, hcode⟩ := generate_program hp hinside hlines none
  refine ⟨hp, hinside, hlines, last, hrun, hcode.trans ?_⟩
  decide +kernel

end ViewEngine

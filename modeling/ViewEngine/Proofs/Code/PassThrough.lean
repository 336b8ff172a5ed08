/-
# Code that is passed through

Code that indents no block needs no `end`: what is between the tags is an ordinary script.  None of
its lines opens a block, so the generator has nothing to do but to take the blanks away.

A line that begins with the word of a further clause, such as `else`, is another matter.  Outside
brackets it closes a block, whatever is in front of it; and where no block is open, no code is
generated.

* `Generator.feed_rows`, `Generator.feed_clause`: what lines that open no block do to the generator;
* `Flat.noClause_iff`, `Flat.exists_clause`: where the generator looks for further clauses, and the
  first that it finds;
* `generate_unindented`: the code that is generated from a script without indented blocks.
-/
import Mathlib.Tactic.Common
import Mathlib.Tactic.Lemma
import ViewEngine.Proofs.Code.FlatLines

namespace ViewEngine

/-! ## Lines as the generator reads them -/

/-- The brackets that are open behind lines of code, `pending` being open in front of the first. -/
def openBehind (pending : List Char) (ls : List Text) : List Char :=
  ls.foldl (fun p l => (Brackets.scan l p).pending) pending

/-- No line opens a block. -/
def OpensNone (pending : List Char) : List Text → Prop
  | [] => True
  | l :: ls =>
    let s := Brackets.scan l pending
    (s.pending = [] → opensBlock s.code = false) ∧ OpensNone s.pending ls

/-- No line begins a further clause where no bracket is open. -/
def NoClause (pending : List Char) : List Text → Prop
  | [] => True
  | l :: ls => (pending = [] → isClauseLine l = false) ∧ NoClause (Brackets.scan l pending).pending ls

section

variable {pending : List Char} {before ls : List Text}

lemma OpensNone.left (h : OpensNone pending (before ++ ls)) : OpensNone pending before := by
  induction before generalizing pending with
  | nil => trivial
  | cons l before ih => exact ⟨h.1, ih h.2⟩

end

namespace Generator

variable {g : Generator} {lines : List Text} {ls : List (Text × Int)}

/-- A line that opens no block. -/
lemma addCode_plain {l : Text} (n : Int)
    (hopens : (Brackets.scan l g.pending).pending = [] →
      opensBlock (Brackets.scan l g.pending).code = false) :
    g.addCode l n = { g with
      listing := g.listing.add l n
      pending := (Brackets.scan l g.pending).pending } := by
  by_cases hnone : (Brackets.scan l g.pending).pending = []
  · rw [addCode_last n hnone, hopens hnone, hnone]
    rfl
  · exact addCode_open n hnone

/-- **Lines that open no block and begin no clause are added**, all at one depth. -/
theorem feed_rows (hls : ls.map (fun l => Text.strip l.1) = lines)
    (hcode : ∀ l ∈ lines, IsCodeLine l ∧ isEndLine l = false) (hopens : OpensNone g.pending lines)
    (hclause : NoClause g.pending lines) :
    ∃ g', g.feed ls = .ok g' ∧ g'.listing.depth = g.listing.depth ∧
      g'.pending = openBehind g.pending lines ∧
      g'.listing.code = g.listing.code ++ rows g.listing.depth lines := by
  induction lines generalizing g ls with
  | nil =>
    rw [List.map_eq_nil_iff] at hls
    subst hls
    exact ⟨g, rfl, rfl, rfl, (List.append_nil _).symm⟩
  | cons l lines ih =>
    obtain ⟨⟨raw, n⟩, ls, rfl, rfl, hrest⟩ := List.map_eq_cons_iff.1 hls
    obtain ⟨⟨hl, hend⟩, hlines⟩ := List.forall_mem_cons.1 hcode
    have hline : g.codeLine raw n = .ok (g.addCode (Text.strip raw) n) := by
      by_cases hp : g.pending = []
      · exact codeLine_plain n hl.ne_nil hp hend (hclause.1 hp)
      · exact codeLine_pending n hl.ne_nil hp
    rw [feed_cons hline, addCode_plain n hopens.1]
    obtain ⟨g', hfeed, hdepth, hpending, hcode⟩ := ih (g := { g with
      listing := g.listing.add (Text.strip raw) n
      pending := (Brackets.scan (Text.strip raw) g.pending).pending }) hrest hlines hopens.2
      hclause.2
    refine ⟨g', hfeed, hdepth, hpending, ?_⟩
    rw [hcode, Listing.code_add, List.append_assoc]
    rfl

/-- **A line that begins a clause ends a block**, and where no block and no bracket is open no code is
generated.  The line is reported by its number. -/
theorem feed_clause {front : List (Text × Int)} {raw : Text} (n : Int)
    (behind : List (Text × Int))
    (hfront : (front.filter fun l => Text.strip l.1 ≠ []).map (fun l => Text.strip l.1) = lines)
    (hcode : ∀ l ∈ lines, IsCodeLine l ∧ isEndLine l = false) (hopens : OpensNone g.pending lines)
    (hclause : NoClause g.pending lines) (hopen : openBehind g.pending lines = [])
    (hline : IsCodeLine (Text.strip raw)) (hend : isEndLine (Text.strip raw) = false)
    (hl : isClauseLine (Text.strip raw) = true) (hdepth : g.listing.depth = 0) :
    ∃ g', g.feed (front ++ (raw, n) :: behind) =
      .error ⟨g', .unexpectedEnd n (g.listing.code ++ rows 0 lines)⟩ := by
  obtain ⟨g₁, hfeed, hd, hpending, hlisting⟩ := feed_rows hfront hcode hopens hclause
  rw [feed_filter] at hfeed
  have hclose : g₁.closeBlock n = .error ⟨g₁, .unexpectedEnd n g₁.listing.code⟩ := by
    simp only [closeBlock, Listing.dedent?, hd, hdepth]
  have hstop : g₁.codeLine raw n = .error ⟨g₁, .unexpectedEnd n g₁.listing.code⟩ := by
    simp only [codeLine, List.isEmpty_iff, hline.ne_nil, hpending.trans hopen, hend, hl, hclose]
    rfl
  refine ⟨g₁, ?_⟩
  rw [feed_append hfeed, feed, hstop, hlisting, hdepth]
  rfl

lemma numbered_append (n : Int) (ls ls' : List Text) :
    numbered n (ls ++ ls') = numbered n ls ++ numbered (n + ls.length) ls' := by
  induction ls generalizing n with
  | nil => simp [numbered]
  | cons l ls ih =>
    rw [List.cons_append, numbered, ih, numbered, List.length_cons, Nat.cast_succ,
      Int.add_assoc, Int.add_comm 1]
    rfl

/-- A single tag of code is its lines. -/
lemma run_tag (i : Text) :
    run {} (Token.ofPieces 1 (tagPieces .openEval .close i)) =
      (({ mode := .eval } : Generator).feed (numbered 1 (Text.cutAtLineFeeds (closeComment i)))).map
        fun g => { g with mode := .plain, trim := false } := by
  have htext : ({ mode := .eval } : Generator).token ⟨.text, i, 1⟩ =
      ({ mode := .eval } : Generator).feed (numbered 1 (Text.cutAtLineFeeds (closeComment i))) :=
    codeLines_eq_feed _ 1
  have hopen : ({} : Generator).token ⟨.tag .openEval, Marker.openEval.text, 1⟩ =
      .ok { mode := .eval } := rfl
  have hclose : ∀ (g : Generator) k, g.mode = .eval → g.token ⟨.tag .close, Marker.close.text, k⟩ =
      .ok { g with mode := .plain, trim := false } := by
    intro g k hmode
    simp [token, marker, Marker.mode?, hmode]
  have hone : (1 : Int) + Text.lineFeeds Marker.openEval.text = 1 := rfl
  simp only [tagPieces, Token.ofPieces, Token.ofPiece, Text.Piece.text, hone]
  rw [run, hopen]
  show run { mode := .eval } _ = _
  rcases hfeed : ({ mode := .eval } : Generator).feed
    (numbered 1 (Text.cutAtLineFeeds (closeComment i))) with e | g
  · rw [hfeed] at htext
    rw [run, htext]
    rfl
  · rw [hfeed] at htext
    rw [run_token rfl htext, run_token rfl (hclose _ _ (feed_frame hfeed).1)]
    rfl

end Generator

/-! ## Blanks around a script -/

/-- The lines of a text between blanks are those of the text, behind a blank line for each line feed in
front of it and in front of blank lines. -/
lemma strip_lines_between {pre post : Text} (hpre : Text.blank pre = true)
    (hpost : Text.blank post = true) (t : Text) :
    ∃ k, (Text.cutAtLineFeeds (pre ++ (t ++ post))).map Text.strip =
      List.replicate (Text.lineFeeds pre) [] ++
        ((Text.cutAtLineFeeds t).map Text.strip ++ List.replicate k []) := by
  have hright : ∃ k, (Text.cutAtLineFeeds (t ++ post)).map Text.strip =
      (Text.cutAtLineFeeds t).map Text.strip ++ List.replicate k [] := by
    obtain ⟨ls, l, b, bs, hcut, hall, hb, hbs⟩ := Text.cutAtLineFeeds_append_blank hpost t
    refine ⟨bs.length, ?_⟩
    have hblanks : bs.map Text.strip = List.replicate bs.length [] :=
      List.eq_replicate_iff.2 ⟨List.length_map _, fun l' hl => by
        obtain ⟨b', hmem, rfl⟩ := List.mem_map.1 hl
        exact Text.strip_append_blank (u := []) (hbs b' hmem)⟩
    rw [hall, hcut, List.map_append, List.map_append, List.map_cons, hblanks,
      Text.strip_append_blank hb]
    simp
  obtain ⟨k, hright⟩ := hright
  refine ⟨k, ?_⟩
  rw [← hright]
  induction pre with
  | nil => rfl
  | cons c pre ih =>
    rw [Text.blank, List.all_cons, Bool.and_eq_true] at hpre
    rw [List.cons_append, Text.cutAtLineFeeds]
    by_cases hc : c = '\n'
    · subst hc
      have hfeeds : Text.lineFeeds ('\n' :: pre) = Text.lineFeeds pre + 1 := List.count_cons_self
      rw [if_pos rfl, List.map_cons, ih hpre.2, hfeeds]
      rfl
    · have hfeeds : Text.lineFeeds (c :: pre) = Text.lineFeeds pre := List.count_cons_of_ne hc
      rw [if_neg hc, hfeeds, ← ih hpre.2]
      rcases hcut : Text.cutAtLineFeeds (pre ++ (t ++ post)) with _ | ⟨l, ls⟩
      · exact absurd hcut (Text.cutAtLineFeeds_ne_nil _)
      · have hstrip : Text.strip (c :: l) = Text.strip l := by
          rw [Text.strip, Text.stripLeft, List.dropWhile_cons_of_pos hpre.1]
          rfl
        dsimp only
        rw [List.map_cons, List.map_cons, hstrip]

/-- No line of a text between blanks is written but those of the text. -/
lemma writtenLines_between {pre t post : Text} (hpre : Text.blank pre = true)
    (hpost : Text.blank post = true) : writtenLines [pre ++ (t ++ post)] = writtenLines [t] := by
  obtain ⟨k, hlines⟩ := strip_lines_between hpre hpost t
  simp [writtenLines, hlines]

/-- The line feed that closes a comment adds a line behind the others. -/
lemma exists_lines_closeComment (t : Text) :
    ∃ ls, Text.cutAtLineFeeds (closeComment t) = Text.cutAtLineFeeds t ++ ls := by
  unfold closeComment
  split
  · exact ⟨[[]], cutAtLineFeeds_feed t⟩
  · exact ⟨[], (List.append_nil _).symm⟩

/-- A line of a text between blanks: the lines in front of it are those of the text, behind one blank
line for each line feed. -/
lemma exists_line_between {pre t post l : Text} {front behind : List Text}
    (hpre : Text.blank pre = true) (hpost : Text.blank post = true)
    (hcut : Text.cutAtLineFeeds t = front ++ l :: behind) :
    ∃ before raw after,
      Text.cutAtLineFeeds (closeComment (pre ++ (t ++ post))) = before ++ raw :: after ∧
      before.length = Text.lineFeeds pre + front.length ∧
      (before.map Text.strip).filter (· ≠ []) = (front.map Text.strip).filter (· ≠ []) ∧
      Text.strip raw = Text.strip l := by
  obtain ⟨k, hlines⟩ := strip_lines_between hpre hpost t
  have hsplit : (Text.cutAtLineFeeds (pre ++ (t ++ post))).map Text.strip =
      (List.replicate (Text.lineFeeds pre) [] ++ front.map Text.strip) ++
        Text.strip l :: (behind.map Text.strip ++ List.replicate k []) := by
    rw [hlines, hcut]
    simp
  obtain ⟨before, after, hall, hbefore, hafter⟩ := List.map_eq_append_iff.1 hsplit
  obtain ⟨raw, after, rfl, hraw, -⟩ := List.map_eq_cons_iff.1 hafter
  obtain ⟨more, hmore⟩ := exists_lines_closeComment (pre ++ (t ++ post))
  refine ⟨before, raw, after ++ more, ?_, ?_, ?_, hraw⟩
  · rw [hmore, hall, List.append_assoc, List.cons_append]
  · simpa using congrArg List.length hbefore
  · rw [hbefore, List.filter_append]
    simp

/-- The inside of a tag of code that holds a text: there may be blanks around the text, and no other
marker is made together with the first or the last character. -/
structure Encloses (i t : Text) : Prop where
  blanks : ∃ pre post, i = pre ++ (t ++ post) ∧ Text.blank pre = true ∧ Text.blank post = true
  front : ∃ c u, i = c :: u ∧ c ∉ ['%', '=', '-', '#', '_']
  last : ∃ u c, i = u ++ [c] ∧ c ∉ ['<', '%', '-', '_']

namespace Encloses

variable {i t : Text}

lemma writtenLines_eq (h : Encloses i t) : writtenLines [i] = writtenLines [t] := by
  obtain ⟨pre, post, rfl, hpre, hpost⟩ := h.blanks
  exact writtenLines_between hpre hpost

/-- The inside and the markers around it are one tag. -/
lemma tokens_eq (h : Encloses i t) (ht : Marker.Unmarked t) :
    tokens (codeTags [i]) = Token.ofPieces 1 (tagPieces .openEval .close i) := by
  have hunmarked : Marker.Unmarked i := by
    obtain ⟨pre, post, rfl, hpre, hpost⟩ := h.blanks
    exact ht.between hpre hpost
  obtain ⟨u, c, hlast, hc⟩ := h.last
  obtain ⟨d, v, hfront, hd⟩ := h.front
  have hopen : Marker.first? (Marker.openEval.text ++ (i ++ (Marker.close.text ++ []))) =
      some (.openEval, Marker.openEval.text.length) := by
    rw [hfront]
    exact Marker.first?_openEval hd _
  rw [tokens, codeTags, List.flatMap_singleton, ← List.append_nil Marker.close.text,
    pieces_between rfl (hunmarked.apart hlast hc .close) hopen, Text.pieces_nil, List.append_nil]

/-- The generator takes the lines of the inside. -/
lemma run_eq (h : Encloses i t) (ht : Marker.Unmarked t) :
    Generator.run {} (tokens (codeTags [i])) =
      (({ mode := .eval } : Generator).feed
        (Generator.numbered 1 (Text.cutAtLineFeeds (closeComment i)))).map
        fun g => { g with mode := .plain, trim := false } := by
  rw [h.tokens_eq ht, Generator.run_tag]

end Encloses

/-! ## Scripts without indented blocks -/

section

variable {all : List Script.Token} {line : Nat} {pending : List Char} {ls : List Text}

/-- A blank line leaves the brackets as they are. -/
lemma scan_blank (pending : List Char) : (Brackets.scan [] pending).pending = pending := by
  rw [Brackets.scan_of_reads .nil List.not_mem_nil]
  rfl

lemma Flat.opensNone (h : Flat all line [] pending ls) (hls : ∀ l ∈ ls, '\n' ∉ l ∧ '\r' ∉ l) :
    OpensNone pending ((ls.map Text.strip).filter (· ≠ [])) := by
  induction ls generalizing line pending with
  | nil => trivial
  | cons l ls ih =>
    obtain ⟨hl, hls⟩ := List.forall_mem_cons.1 hls
    obtain ⟨hopens, -, hrest⟩ := h.scan hl.1 hl.2
    have hrest := ih hrest hls
    rw [List.map_cons]
    by_cases hblank : Text.strip l = []
    · rw [hblank, scan_blank] at hrest
      rwa [List.filter_cons_of_neg (by simpa using hblank)]
    · rw [List.filter_cons_of_pos (by simpa using hblank)]
      exact ⟨hopens, hrest⟩

/-- The generator looks for further clauses where no bracket of the script is open. -/
lemma Flat.noClause_iff (h : Flat all line [] pending ls) (hls : ∀ l ∈ ls, '\n' ∉ l ∧ '\r' ∉ l)
    (hopen : Script.bracketsBefore all line = pending.length) :
    NoClause pending ((ls.map Text.strip).filter (· ≠ [])) ↔
      ∀ x ∈ ls.zipIdx line, Script.bracketsBefore all x.2 = 0 →
        isClauseLine (Text.strip x.1) = false := by
  induction ls generalizing line pending with
  | nil => exact ⟨fun _ x hx => absurd hx List.not_mem_nil, fun _ => trivial⟩
  | cons l ls ih =>
    obtain ⟨hl, hls⟩ := List.forall_mem_cons.1 hls
    obtain ⟨-, hnext, hrest⟩ := h.scan hl.1 hl.2
    have hrest := ih hrest hls hnext
    have hnone : Script.bracketsBefore all line = 0 ↔ pending = [] := by
      rw [hopen, Int.natCast_eq_zero, List.length_eq_zero_iff]
    rw [List.zipIdx_cons, List.forall_mem_cons, hnone, List.map_cons]
    by_cases hblank : Text.strip l = []
    · rw [hblank, scan_blank] at hrest
      rw [List.filter_cons_of_neg (by simpa using hblank), hrest, hblank]
      exact ⟨fun hclause => ⟨fun _ => rfl, hclause⟩, fun hclause => hclause.2⟩
    · rw [List.filter_cons_of_pos (by simpa using hblank), NoClause, hrest]

/-- The first line outside brackets that begins a further clause, if there is one: up to there, no line
does, and behind the lines in front of it no bracket is open. -/
lemma Flat.exists_clause (h : Flat all line [] pending ls) (hls : ∀ l ∈ ls, '\n' ∉ l ∧ '\r' ∉ l)
    (hopen : Script.bracketsBefore all line = pending.length)
    (hclause : ¬ ∀ x ∈ ls.zipIdx line, Script.bracketsBefore all x.2 = 0 →
      isClauseLine (Text.strip x.1) = false) :
    ∃ front l behind, ls = front ++ l :: behind ∧
      (∀ x ∈ front.zipIdx line, Script.bracketsBefore all x.2 = 0 →
        isClauseLine (Text.strip x.1) = false) ∧
      Script.bracketsBefore all (line + front.length) = 0 ∧ isClauseLine (Text.strip l) = true ∧
      openBehind pending ((front.map Text.strip).filter (· ≠ [])) = [] := by
  induction ls generalizing line pending with
  | nil => exact absurd (fun x hx => absurd hx List.not_mem_nil) hclause
  | cons l ls ih =>
    obtain ⟨hl, hls⟩ := List.forall_mem_cons.1 hls
    obtain ⟨-, hnext, hrest⟩ := h.scan hl.1 hl.2
    by_cases hfirst : Script.bracketsBefore all line = 0 → isClauseLine (Text.strip l) = false
    · rw [List.zipIdx_cons, List.forall_mem_cons, not_and] at hclause
      obtain ⟨front, l', behind, rfl, hfront, hzero, hl', hbehind⟩ :=
        ih hrest hls hnext (hclause hfirst)
      refine ⟨l :: front, l', behind, rfl, ?_, ?_, hl', ?_⟩
      · rw [List.zipIdx_cons, List.forall_mem_cons]
        exact ⟨hfirst, hfront⟩
      · rw [List.length_cons, Nat.add_comm front.length, ← Nat.add_assoc, hzero]
      · rw [List.map_cons]
        by_cases hblank : Text.strip l = []
        · rw [hblank, scan_blank] at hbehind
          rwa [List.filter_cons_of_neg (by simpa using hblank)]
        · rwa [List.filter_cons_of_pos (by simpa using hblank)]
    · rw [Classical.not_imp, Bool.not_eq_false] at hfirst
      rw [hopen, Int.natCast_eq_zero, List.length_eq_zero_iff] at hfirst
      obtain ⟨rfl, hl⟩ := hfirst
      exact ⟨[], l, ls, rfl, fun x hx => absurd hx List.not_mem_nil, hopen, hl, rfl⟩

end

/-- A script in which no block is indented, without markers and without lines that would end a
block. -/
structure Unindented (t : Text) : Prop where
  parses : ∃ p, Script.parse? t = some p
  no_indent : .indent ∉ Script.kinds t
  no_return : '\r' ∉ t
  no_marker : Marker.Unmarked t
  no_end : ∀ l ∈ Text.cutAtLineFeeds t, isEndLine (Text.strip l) = false

instance : DecidablePred Unindented := fun t =>
  decidable_of_iff ((Script.parse? t).isSome ∧ .indent ∉ Script.kinds t ∧ '\r' ∉ t ∧
      Marker.Unmarked t ∧ ∀ l ∈ Text.cutAtLineFeeds t, isEndLine (Text.strip l) = false)
    ⟨fun ⟨hp, hindent, hreturn, hmarker, hend⟩ =>
      ⟨Option.isSome_iff_exists.1 hp, hindent, hreturn, hmarker, hend⟩,
    fun h => ⟨Option.isSome_iff_exists.2 h.parses, h.no_indent, h.no_return, h.no_marker, h.no_end⟩⟩

/-- No line of the script begins with the word of a further clause, except in brackets. -/
def NoClauseLine (t : Text) : Prop :=
  ∀ x ∈ (Text.cutAtLineFeeds t).zipIdx 1, Script.bracketsBefore (Script.lex 1 t).list x.2 = 0 →
    isClauseLine (Text.strip x.1) = false

instance : DecidablePred NoClauseLine := fun t =>
  inferInstanceAs (Decidable (∀ x ∈ (Text.cutAtLineFeeds t).zipIdx 1,
    Script.bracketsBefore (Script.lex 1 t).list x.2 = 0 → isClauseLine (Text.strip x.1) = false))

namespace Unindented

variable {t : Text}

/-- The lines of the script, as the generator takes them. -/
lemma lines (h : Unindented t) : ∀ l ∈ writtenLines [t], IsCodeLine l ∧ isEndLine l = false := by
  intro l hl
  refine ⟨isCodeLine_of_writtenLines (by simpa using h.no_return) l hl, ?_⟩
  rw [writtenLines, List.flatMap_singleton] at hl
  obtain ⟨raw, hraw, rfl⟩ := List.mem_map.1 (List.mem_filter.1 hl).1
  exact h.no_end raw hraw

lemma no_breaks (h : Unindented t) : ∀ l ∈ Text.cutAtLineFeeds t, '\n' ∉ l ∧ '\r' ∉ l := by
  intro l hl
  obtain ⟨hfeed, hpart⟩ := Text.mem_cutAtLineFeeds hl
  exact ⟨hfeed, fun hreturn => h.no_return (hpart.subset hreturn)⟩

lemma flat (h : Unindented t) (hstrings : StringsOnLines (Script.kinds t)) :
    Flat (Script.lex 1 t).list 1 [] [] (Text.cutAtLineFeeds t) := by
  obtain ⟨p, hp⟩ := h.parses
  exact flat_lines hp h.no_return h.no_indent hstrings

/-- No bracket is open in front of the script. -/
lemma bracketsBefore_one (h : Unindented t) :
    Script.bracketsBefore (Script.lex 1 t).list 1 = ([] : List Char).length := by
  obtain ⟨p, hp⟩ := h.parses
  exact Script.bracketsBefore_of_le fun x hx hweight => (cuts_of_parse hp).line_le x hx hweight

end Unindented

/-- **Code without indented blocks is passed through.**  Write a script in which every block stands
on the line of its header, and every string literal on one line, into a tag of code.  As long as no
line outside brackets begins a further clause, code is generated, and it is the lines of the script
without the blanks at their ends, and without blank lines, none of them indented.  A line that begins a
further clause would end a block, and none is open: the lines in front of the first such line are passed
through, and then that is reported, with the line of the view on which it stands. -/
theorem generate_unindented {t i : Text} (ht : Unindented t)
    (hstrings : StringsOnLines (Script.kinds t)) (hi : Encloses i t) (name : Option Text) :
    (NoClauseLine t →
      ∃ g, generate (codeTags [i]) name = .ok g ∧ g.code = rows 0 (writtenLines [t])) ∧
    (¬ NoClauseLine t →
      ∃ pre front l behind, Text.blank pre = true ∧ pre ++ t <+: i ∧
        Text.cutAtLineFeeds t = front ++ l :: behind ∧
        (∀ x ∈ front.zipIdx 1, Script.bracketsBefore (Script.lex 1 t).list x.2 = 0 →
          isClauseLine (Text.strip x.1) = false) ∧
        Script.bracketsBefore (Script.lex 1 t).list (1 + front.length) = 0 ∧
        isClauseLine (Text.strip l) = true ∧
        generate (codeTags [i]) name = .error (.uncompilable "'end' without an open block"
          { line := some (1 + Text.lineFeeds pre + front.length), name, source := codeTags [i] }
          (rows 0 ((front.map Text.strip).filter (· ≠ []))) .unexpectedEnd)) := by
  have hflat := ht.flat hstrings
  have hrun := hi.run_eq ht.no_marker
  constructor
  · intro hclause
    have hnone := (hflat.noClause_iff ht.no_breaks ht.bracketsBefore_one).2 hclause
    have hopens := hflat.opensNone ht.no_breaks
    have hwritten : ((Text.cutAtLineFeeds t).map Text.strip).filter (· ≠ []) = writtenLines [t] := by
      rw [writtenLines, List.flatMap_singleton]
    rw [hwritten] at hnone hopens
    have hls : ((Generator.numbered 1 (Text.cutAtLineFeeds (closeComment i))).filter
        fun l => Text.strip l.1 ≠ []).map (fun l => Text.strip l.1) = writtenLines [t] := by
      rw [Generator.map_filter_numbered, written_closeComment, ← hi.writtenLines_eq, writtenLines,
        List.flatMap_singleton]
    obtain ⟨g, hfeed, -, -, hcode⟩ :=
      Generator.feed_rows (g := { mode := .eval }) hls ht.lines hopens hnone
    rw [Generator.feed_filter] at hfeed
    rw [hfeed] at hrun
    refine ⟨_, by rw [generate, hrun]; rfl, hcode⟩
  · intro hclause
    obtain ⟨front, l, behind, hcut, hfront, hzero, hl, hbehind⟩ :=
      hflat.exists_clause ht.no_breaks ht.bracketsBefore_one hclause
    obtain ⟨pre, post, rfl, hpre, hpost⟩ := hi.blanks
    have hlast : Text.strip l ≠ [] := by
      intro hnil
      rw [hnil] at hl
      cases hl
    -- the lines of the script that are written: those in front of the clause, and the clause
    have hcode := ht.lines
    rw [writtenLines, List.flatMap_singleton, hcut, List.map_append, List.map_cons, List.filter_append,
      List.filter_cons_of_pos (by simpa using hlast), List.forall_mem_append, List.forall_mem_cons]
      at hcode
    obtain ⟨hwritten, ⟨hline, hend⟩, -⟩ := hcode
    obtain ⟨before, raw, after, hsplit, hlength, hbefore, hraw⟩ :=
      exists_line_between hpre hpost hcut
    have hrows := (Generator.map_filter_numbered 1 before).trans hbefore
    rw [hcut] at hflat
    have hbreaks : ∀ l' ∈ front, '\n' ∉ l' ∧ '\r' ∉ l' := fun l' hl' =>
      ht.no_breaks l' (hcut ▸ List.mem_append_left _ hl')
    rw [← hraw] at hl hline hend
    obtain ⟨g, hfeed⟩ := Generator.feed_clause (g := { mode := .eval }) (1 + before.length)
      (Generator.numbered (1 + before.length + 1) after) hrows hwritten (hflat.left.opensNone hbreaks)
      ((hflat.left.noClause_iff hbreaks ht.bracketsBefore_one).2 hfront) hbehind hline hend hl rfl
    rw [hsplit, Generator.numbered_append, Generator.numbered, hfeed] at hrun
    refine ⟨pre, front, l, behind, hpre, ⟨post, List.append_assoc _ _ _⟩, hcut, hfront, hzero,
      hraw ▸ hl, ?_⟩
    rw [generate, hrun, hlength, Nat.cast_add, ← Int.add_assoc]
    rfl

/-- Blocks on the lines of their headers, brackets over several lines, one of which begins with
`else`, colons in a literal and in a comment, and a line that is joined to the next. -/
theorem generate_unindented_lines :
    let t : Text := "if a: x = 1\n\n # if:\ny = [1, 2 if a\n  else 3]\nz = 'else:\\n(' + \\\n  'b' # :"
    let i : Text := "\n  " ++ (t ++ " ")
    Unindented t ∧ StringsOnLines (Script.kinds t) ∧ Encloses i t ∧ NoClauseLine t ∧
      ∃ g, generate (codeTags [i]) none = .ok g ∧
        g.code = "if a: x = 1\n# if:\ny = [1, 2 if a\nelse 3]\nz = 'else:\\n(' + \\\n'b' # :\n" := by
  intro t i
  have ht : Unindented t := by decide +kernel
  have hstrings : StringsOnLines (Script.kinds t) := by decide +kernel
  have hi : Encloses i t := {
    blanks := ⟨"\n  ", " ", rfl, by decide, by decide⟩
    front := ⟨'\n', _, rfl, by decide⟩
    last := ⟨"\n  " ++ t, ' ', rfl, by decide⟩ }
  have hclause : NoClauseLine t := by decide +kernel
  obtain ⟨g, hgenerate, hcode⟩ := (generate_unindented ht hstrings hi none).1 hclause
  refine ⟨ht, hstrings, hi, hclause, g, hgenerate, hcode.trans ?_⟩
  decide +kernel

/-- A clause on a line of its own would end a block, although the one in front of it ends by itself.
And a literal that goes on behind a backslash may look like a header. -/
theorem unindented_misread :
    (let t : Text := "if a: x = 1\nelse: x = 2"
     let source := codeTags [" " ++ (t ++ " ")]
     Unindented t ∧ StringsOnLines (Script.kinds t) ∧
      generate source none = .error (.uncompilable "'end' without an open block"
        { line := some 2, source } "if a: x = 1\n" .unexpectedEnd)) ∧
    (let t : Text := "x = 'a\\\nb: # c'"
     let source := codeTags [" " ++ (t ++ " ")]
     Unindented t ∧ ¬ "'''" <:+: t ∧ ¬ "\"\"\"" <:+: t ∧ NoClauseLine t ∧
      generate source none = .ok {
        code := "x = 'a\\\nb: # c'\n    pass\n"
        lineMap := [1, 2, 2]
        source }) := by
  refine ⟨⟨?_, ?_, ?_⟩, ?_, ?_, ?_, ?_, ?_⟩ <;> decide +kernel

end ViewEngine

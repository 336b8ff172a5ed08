/-
# Lines that open no block

The generator sees the lines of a script one after the other, and a line that ends in a colon
outside brackets opens a block.  In a script that can be read such a line is followed by an
indentation.  So if no block is indented, no line opens one, whatever brackets and comments there
are: those that are found on a line are the ones of the script, as long as every string literal lies
on one line.

The proof goes along the looks that cut the script into tokens.  At each place it is known what code
stands in front on the line (`AtPlace`), and which tokens are left (`Left`), so that the brackets that
the generator finds open are those of the script, which its tokens tell.

* `Script.bracketsBefore`: the brackets of a script that are open in front of a line;
* `Flat`: lines none of which opens a block;
* `flat_of_cuts`: the lines of a text whose tokens are known;
* `flat_lines`: the lines of a script without indented blocks.
-/
import Mathlib.Tactic.Common
import Mathlib.Tactic.Lemma
import ViewEngine.Proofs.Code.Blocks
import ViewEngine.Proofs.Script.Chunks
import ViewEngine.Proofs.Script.LineEnds

namespace ViewEngine

open Brackets (Reads IsMarked)
open Script (Bite Hollow Cuts LexState)

/-! ## Brackets in front of lines -/

/-- How many brackets are open in front of a line of a script with the given tokens. -/
def Script.bracketsBefore (ts : List Script.Token) (line : Nat) : Int :=
  ((ts.filter (·.line < line)).map (·.kind.weight)).sum

section

variable {all done ts : List Script.Token} {line : Nat}

lemma Script.bracketsBefore_append (ts ts' : List Script.Token) (line : Nat) :
    Script.bracketsBefore (ts ++ ts') line =
      Script.bracketsBefore ts line + Script.bracketsBefore ts' line := by
  rw [Script.bracketsBefore, List.filter_append, List.map_append, List.sum_append]
  rfl

/-- All brackets stand in front of the line. -/
lemma Script.bracketsBefore_of_lt (h : ∀ x ∈ ts, x.kind.weight ≠ 0 → x.line < line) :
    Script.bracketsBefore ts line = (ts.map (·.kind.weight)).sum := by
  induction ts with
  | nil => rfl
  | cons x ts ih =>
    obtain ⟨hx, hts⟩ := List.forall_mem_cons.1 h
    have hrest := ih hts
    rw [Script.bracketsBefore] at hrest ⊢
    by_cases hlt : x.line < line
    · rw [List.filter_cons_of_pos (by simpa using hlt), List.map_cons, List.map_cons, List.sum_cons,
        List.sum_cons, hrest]
    · have hzero : x.kind.weight = 0 := by
        by_contra hweight
        exact hlt (hx hweight)
      rw [List.filter_cons_of_neg (by simpa using hlt), List.map_cons, List.sum_cons, hzero, hrest,
        Int.zero_add]

/-- No bracket stands in front of the line. -/
lemma Script.bracketsBefore_of_le (h : ∀ x ∈ ts, x.kind.weight ≠ 0 → line ≤ x.line) :
    Script.bracketsBefore ts line = 0 := by
  induction ts with
  | nil => rfl
  | cons x ts ih =>
    obtain ⟨hx, hts⟩ := List.forall_mem_cons.1 h
    have hrest := ih hts
    rw [Script.bracketsBefore] at hrest ⊢
    by_cases hlt : x.line < line
    · have hzero : x.kind.weight = 0 := by
        by_contra hweight
        exact absurd (hx hweight) (Nat.not_le_of_lt hlt)
      rw [List.filter_cons_of_pos (by simpa using hlt), List.map_cons, List.sum_cons, hzero, hrest]
      rfl
    · rw [List.filter_cons_of_neg (by simpa using hlt), hrest]

end

/-! ## Lines that open no block -/

/-- With some code in front of them and some brackets open, no line opens a block; and the brackets
that are open in front of the further lines are those of the script.  `line` is the number of the
first. -/
def Flat (all : List Script.Token) (line : Nat) (front : Text) (pending : List Char) :
    List Text → Prop
  | [] => True
  | l :: ls => ∃ ms code, Reads l ms code ∧
      (ms.foldl Brackets.step pending = [] → opensBlock (front ++ code) = false) ∧
      Script.bracketsBefore all (line + 1) = (ms.foldl Brackets.step pending).length ∧
      Flat all (line + 1) [] (ms.foldl Brackets.step pending) ls

section

variable {all : List Script.Token} {line : Nat} {front : Text} {pending : List Char} {ls : List Text}
  {c : Char} {t v w : Text} {m : Brackets.Mark}

/-- Characters without marks. -/
lemma Flat.plain (hw : ∀ c ∈ w, c ∉ markChars)
    (h : Flat all line (front ++ w) pending (Text.cutAtLineFeeds v)) :
    Flat all line front pending (Text.cutAtLineFeeds (w ++ v)) := by
  have hfeed : '\n' ∉ w := fun hmem => hw _ hmem (by decide)
  obtain ⟨l, ls, hcut, hall, -⟩ := Text.cutAtLineFeeds_append hfeed v
  rw [hcut] at h
  obtain ⟨ms, code, hread, hopens, hrest⟩ := h
  rw [hall]
  exact ⟨ms, w ++ code, hread.plains hw, by rwa [← List.append_assoc], hrest⟩

/-- A string literal or a bracket. -/
lemma Flat.found (hw : IsMarked w m v.head?)
    (h : Flat all line (front ++ w) (Brackets.step pending m) (Text.cutAtLineFeeds v)) :
    Flat all line front pending (Text.cutAtLineFeeds (w ++ v)) := by
  obtain ⟨l, ls, hcut, hall, hhead⟩ := Text.cutAtLineFeeds_append hw.no_feed v
  rw [hcut] at h
  obtain ⟨ms, code, hread, hopens, hrest⟩ := h
  rw [hall]
  exact ⟨m :: ms, w ++ code, .found (hw.of_head hhead) hread, by rwa [← List.append_assoc], hrest⟩

/-- The end of the text. -/
lemma Flat.finish (hopens : pending = [] → opensBlock front = false)
    (hopen : Script.bracketsBefore all (line + 1) = pending.length) :
    Flat all line front pending (Text.cutAtLineFeeds []) :=
  ⟨[], [], .nil, by rwa [List.append_nil], hopen, trivial⟩

/-- The end of a line. -/
lemma Flat.feed (hopens : pending = [] → opensBlock front = false)
    (hopen : Script.bracketsBefore all (line + 1) = pending.length)
    (h : Flat all (line + 1) [] pending (Text.cutAtLineFeeds v)) :
    Flat all line front pending (Text.cutAtLineFeeds ('\n' :: v)) := by
  rw [Text.cutAtLineFeeds, if_pos rfl]
  exact ⟨[], [], .nil, by rwa [List.append_nil], hopen, h⟩

/-- A comment in front of the end of a line, or of the text. -/
lemma Flat.remark (hfeed : '\n' ∉ w) (hreturn : '\r' ∉ w)
    (hv : v.head? = none ∨ v.head? = some '\n')
    (h : Flat all line front pending (Text.cutAtLineFeeds v)) :
    Flat all line front pending (Text.cutAtLineFeeds ('#' :: (w ++ v))) := by
  obtain ⟨l, ls, hcut, hall, hhead⟩ :=
    Text.cutAtLineFeeds_append (w := '#' :: w) (by simp [hfeed]) v
  rw [List.cons_append] at hall
  rw [hcut] at h
  obtain ⟨ms, code, hread, hopens, hrest⟩ := h
  obtain rfl : l = [] := by
    cases v with
    | nil =>
      cases hcut
      rfl
    | cons d v =>
      obtain rfl : d = '\n' := Option.some.inj (hv.resolve_left (by simp))
      rw [Text.cutAtLineFeeds, if_pos rfl] at hcut
      exact (List.cons.inj hcut).1.symm
  obtain ⟨rfl, rfl⟩ := hread.blanks rfl (by simp)
  rw [hall, List.append_nil]
  exact ⟨[.comment], [], .comment hfeed hreturn, hopens, hrest⟩

/-- A backslash that joins the line to the next. -/
lemma Flat.join (hopen : Script.bracketsBefore all (line + 1) = pending.length)
    (h : Flat all (line + 1) [] pending (Text.cutAtLineFeeds v)) :
    Flat all line front pending (Text.cutAtLineFeeds ('\\' :: '\n' :: v)) := by
  have hcut : Text.cutAtLineFeeds ('\\' :: '\n' :: v) = ['\\'] :: Text.cutAtLineFeeds v := by
    rw [Text.cutAtLineFeeds, if_neg (by decide), Text.cutAtLineFeeds, if_pos rfl]
  rw [hcut]
  refine ⟨[], ['\\'], .plain (by decide) .nil, fun _ => ?_, hopen, h⟩
  rw [opensBlock_concat (by decide)]
  rfl

lemma Flat.left {ls' : List Text} (h : Flat all line front pending (ls ++ ls')) :
    Flat all line front pending ls := by
  induction ls generalizing line front pending with
  | nil => trivial
  | cons l ls ih =>
    obtain ⟨ms, code, hread, hopens, hopen, hrest⟩ := h
    exact ⟨ms, code, hread, hopens, hopen, ih hrest⟩

/-- **What the generator makes of the first of the lines**, without the blanks at its ends. -/
lemma Flat.scan {l : Text} (h : Flat all line [] pending (l :: ls)) (hfeed : '\n' ∉ l)
    (hreturn : '\r' ∉ l) :
    let s := Brackets.scan (Text.strip l) pending
    (s.pending = [] → opensBlock s.code = false) ∧
      Script.bracketsBefore all (line + 1) = s.pending.length ∧
      Flat all (line + 1) [] s.pending ls := by
  obtain ⟨ms, code, hread, hopens, hrest⟩ := h
  obtain ⟨code', hread, hsame⟩ := hread.strip hfeed
  obtain ⟨u, v, hsplit⟩ := Text.exists_append_strip l
  have hreturn' : '\r' ∉ Text.strip l := by
    intro hmem
    rw [hsplit] at hreturn
    exact hreturn (by simp [hmem])
  intro s
  have hscan : s = ⟨code', ms.foldl Brackets.step pending⟩ :=
    Brackets.scan_of_reads hread hreturn' pending
  rw [hscan]
  exact ⟨fun hnone => hsame.trans (hopens hnone), hrest⟩

end

/-! ## What is left of a script at a place -/

/-- The brackets that are open in a state, as the generator keeps them. -/
def openIn (s : LexState) : List Char := (s.brackets.map Prod.fst).reverse

lemma length_openIn (s : LexState) : (openIn s).length = s.brackets.length := by
  rw [openIn, List.length_reverse, List.length_map]

/-- The last tokens of a script are those that are left in a state: the brackets of the others are
the ones that are open, and lie on no later line. -/
def Left (all : List Script.Token) (s : LexState) (ts : List Script.Token) : Prop :=
  ∃ done, all = done ++ ts ∧ (∀ x ∈ done, x.kind.weight ≠ 0 → x.line ≤ s.line) ∧
    (done.map (·.kind.weight)).sum = s.brackets.length

namespace Left

variable {all ts ts' : List Script.Token} {s next : LexState}

/-- **The brackets that are open in front of a further line**, if those that are left lie behind
it. -/
lemma bracketsBefore_eq (h : Left all s ts) {line : Nat} (hline : s.line < line)
    (hts : ∀ x ∈ ts, x.kind.weight ≠ 0 → line ≤ x.line) :
    Script.bracketsBefore all line = (openIn s).length := by
  obtain ⟨done, rfl, hdone, hsum⟩ := h
  rw [Script.bracketsBefore_append, Script.bracketsBefore_of_le hts,
    Script.bracketsBefore_of_lt fun x hx hweight => Nat.lt_of_le_of_lt (hdone x hx hweight) hline,
    hsum, length_openIn, Int.add_zero]

/-- Tokens that are taken. -/
lemma take (h : Left all s (ts ++ ts')) (hline : s.line ≤ next.line)
    (hts : ∀ x ∈ ts, x.kind.weight ≠ 0 → x.line ≤ next.line)
    (hsum : (ts.map (·.kind.weight)).sum + s.brackets.length = next.brackets.length) :
    Left all next ts' := by
  obtain ⟨done, rfl, hdone, hopen⟩ := h
  refine ⟨done ++ ts, by rw [List.append_assoc], fun x hx hweight => ?_, ?_⟩
  · rcases List.mem_append.1 hx with hx | hx
    · exact Nat.le_trans (hdone x hx hweight) hline
    · exact hts x hx hweight
  · rw [List.map_append, List.sum_append, hopen, ← hsum, Int.add_comm]

end Left

/-! ## The lines of a script -/

/-- No logical line ends in a colon. -/
def NoColonEnd (ks : List Script.TokenKind) : Prop :=
  ∀ before behind, ks ≠ before ++ .op [':'] :: .newline :: behind

lemma NoColonEnd.right {ks ks' : List Script.TokenKind} (h : NoColonEnd (ks ++ ks')) :
    NoColonEnd ks' := by
  rintro before behind rfl
  exact h (ks ++ before) behind (by rw [List.append_assoc])

/-- What stands between the quotes of a string literal. -/
def Script.TokenKind.body? : Script.TokenKind → Option Text
  | .string _ _ body => some body
  | _ => none

/-- Every string literal lies on one line. -/
def StringsOnLines (ks : List Script.TokenKind) : Prop := ∀ k ∈ ks, ∀ body ∈ k.body?, '\n' ∉ body

instance : DecidablePred StringsOnLines := fun ks =>
  inferInstanceAs (Decidable (∀ k ∈ ks, ∀ body ∈ k.body?, '\n' ∉ body))

lemma StringsOnLines.right {ks ks' : List Script.TokenKind} (h : StringsOnLines (ks ++ ks')) :
    StringsOnLines ks' :=
  fun k hk => h k (List.mem_append_right _ hk)

/-- What the code in front of a place says about the token in front of it: only a colon may have
been that token if the code would open a block. -/
def lastColon (front : Text) : List Script.TokenKind := if opensBlock front then [.op [':']] else []

lemma lastColon_of_not {front : Text} (h : opensBlock front = false) : lastColon front = [] := by
  rw [lastColon, h]
  rfl

lemma blank_of_isGap {c : Char} (hc : Script.isGap c = true) :
    Text.isBlank c = true ∧ c ∉ markChars := by
  simp only [Script.isGap, Bool.or_eq_true, decide_eq_true_eq] at hc
  rcases hc with (rfl | rfl) | rfl <;> decide

lemma lastColon_of_opens {front : Text} (h : opensBlock front = true) :
    lastColon front = [.op [':']] := by
  rw [lastColon, h]
  rfl

/-- A text without carriage returns, the last line of which is ended. -/
structure Ended (t : Text) : Prop where
  no_return : '\r' ∉ t
  last : ∀ c ∈ t.getLast?, c = '\n'

namespace Ended

variable {u v : Text}

lemma right (h : Ended (u ++ v)) : Ended v where
  no_return hmem := h.no_return (List.mem_append_right u hmem)
  last c hc := h.last c (by rw [List.getLast?_append, hc]; rfl)

/-- Behind characters that end no line, something follows. -/
lemma ne_nil (h : Ended (u ++ v)) (hu : u ≠ []) (hfeed : '\n' ∉ u) : v ≠ [] := by
  rintro rfl
  rw [List.append_nil] at h
  have hlast := h.last _ (List.getLast?_eq_some_getLast hu)
  exact hfeed (hlast ▸ List.getLast_mem hu)

end Ended

/-- What is known at a place of a script, with the code in front of it on its line and the tokens
behind it. -/
structure AtPlace (s : LexState) (t front : Text) (ks : List Script.TokenKind) : Prop where
  start : s.lineStart = true → s.brackets = [] ∧ opensBlock front = false
  ended : t = [] → opensBlock front = false
  colon : NoColonEnd (lastColon front ++ ks)

/-- Inside a logical line, in front of some text. -/
lemma atPlace_inside {s : LexState} {t front : Text} {ks : List Script.TokenKind}
    (hs : s.lineStart = false) (ht : t ≠ [] ∨ opensBlock front = false)
    (hcolon : NoColonEnd (lastColon front ++ ks)) : AtPlace s t front ks where
  start h := by rw [hs] at h; cases h
  ended hnil := ht.resolve_left fun hne => hne hnil
  colon := hcolon

/-- At the front of a line. -/
lemma atPlace_front {s : LexState} {t : Text} {ks : List Script.TokenKind}
    (hs : s.lineStart = true → s.brackets = []) (hcolon : NoColonEnd ks) : AtPlace s t [] ks where
  start h := ⟨hs h, rfl⟩
  ended _ := rfl
  colon := hcolon

/-- Lines without tokens. -/
lemma Flat.hollow {all : List Script.Token} {line n : Nat} {t v front : Text} (h : Hollow n t v)
    (hreturn : '\r' ∉ t) (hfront : opensBlock front = false)
    (hopen : ∀ m, line < m → m ≤ line + n → Script.bracketsBefore all m = ([] : Text).length)
    (hrest : Flat all (line + n) [] [] (Text.cutAtLineFeeds v)) :
    Flat all line front [] (Text.cutAtLineFeeds t) := by
  induction h generalizing line front with
  | @gap n c t v hc h ih =>
    rw [List.mem_cons, not_or] at hreturn
    obtain ⟨hblank, hplain⟩ := blank_of_isGap hc
    have hopens : opensBlock (front ++ [c]) = false := by
      rw [opensBlock_append_blank (by simp [Text.blank, hblank]), hfront]
    exact Flat.plain (w := [c]) (by simpa using hplain) (ih hreturn.2 hopens hopen hrest)
  | @join n t v h ih =>
    simp only [List.mem_cons, not_or] at hreturn
    refine .join (hopen _ (by omega) (by omega)) (ih hreturn.2.2 rfl ?_ ?_)
    · exact fun m hlt hle => hopen m (by omega) (by omega)
    · rwa [Nat.add_assoc, Nat.add_comm 1 n]
  | feed => exact .feed (fun _ => hfront) (hopen _ (by omega) (by omega)) hrest
  | remark hw =>
    simp only [List.mem_cons, List.mem_append, not_or] at hreturn
    exact .remark hw hreturn.2.1 (.inr rfl)
      (.feed (fun _ => hfront) (hopen _ (by omega) (by omega)) hrest)
  | @ending w hw =>
    rw [List.mem_cons, not_or] at hreturn
    have hfinish : Flat all line front [] (Text.cutAtLineFeeds []) :=
      .finish (fun _ => hfront) (hopen _ (by omega) (by omega))
    have hremark := Flat.remark hw hreturn.2 (.inl rfl) hfinish
    rwa [List.append_nil] at hremark

section

variable {all : List Script.Token} {s next : LexState} {w v front : Text}
  {ks : List Script.TokenKind}

/-- Characters without marks, inside a logical line. -/
lemma Flat.unmarked (hw : ∀ c ∈ w, c ∉ markChars) (hne : w ≠ []) (ht : Ended (w ++ v))
    (hstart : next.lineStart = false) (hline : next.line = s.line) (hopen : openIn next = openIn s)
    (hcolon : NoColonEnd (lastColon (front ++ w) ++ ks))
    (hrest : ∀ front, AtPlace next v front ks →
      Flat all next.line front (openIn next) (Text.cutAtLineFeeds v)) :
    Flat all s.line front (openIn s) (Text.cutAtLineFeeds (w ++ v)) := by
  have hfeed : '\n' ∉ w := fun hmem => hw _ hmem (by decide)
  rw [hline, hopen] at hrest
  exact .plain hw (hrest _ (atPlace_inside hstart (.inl (ht.ne_nil hne hfeed)) hcolon))

/-- A bracket or a string literal, inside a logical line. -/
lemma Flat.marked {m : Brackets.Mark} (hw : IsMarked w m v.head?) (ht : Ended (w ++ v))
    (hstart : next.lineStart = false) (hline : next.line = s.line)
    (hstep : openIn next = Brackets.step (openIn s) m) (hcolon : NoColonEnd ks)
    (hrest : ∀ front, AtPlace next v front ks →
      Flat all next.line front (openIn next) (Text.cutAtLineFeeds v)) :
    Flat all s.line front (openIn s) (Text.cutAtLineFeeds (w ++ v)) := by
  have hne : v ≠ [] := ht.ne_nil hw.ne_nil hw.no_feed
  rw [hline, hstep] at hrest
  refine .found hw (hrest _ (atPlace_inside hstart (.inl hne) ?_))
  rwa [lastColon_of_not (hw.not_opensBlock front)]

end

/-- One look inside a logical line. -/
lemma Flat.bite {all ts : List Script.Token} {s next : LexState} {t v front : Text}
    {k : Option Script.TokenKind} (hs : s.lineStart = false) (h : Bite s t k next v) (ht : Ended t)
    (hstrings : StringsOnLines (k.toList ++ ts.map (·.kind)))
    (hplace : AtPlace s t front (k.toList ++ ts.map (·.kind)))
    (hleft : Left all s (Script.made k s next ++ ts))
    (hlate : ∀ x ∈ ts, x.kind.weight ≠ 0 → next.line ≤ x.line)
    (hrest : ∀ front, AtPlace next v front (ts.map (·.kind)) →
      Flat all next.line front (openIn next) (Text.cutAtLineFeeds v)) :
    Flat all s.line front (openIn s) (Text.cutAtLineFeeds t) := by
  -- where the line ends, the brackets that are open are those in front of the next
  have hopen : next.line = s.line + 1 → (∀ x ∈ Script.made k s next, x.kind.weight = 0) →
      Script.bracketsBefore all (s.line + 1) = (openIn s).length := by
    intro hline hmade
    refine hleft.bracketsBefore_eq (Nat.lt_succ_self _) fun x hx hweight => ?_
    rcases List.mem_append.1 hx with hx | hx
    · exact absurd (hmade x hx) hweight
    · exact hline ▸ hlate x hx hweight
  cases h with
  | @gap c v hc =>
    obtain ⟨hblank, hplain⟩ := blank_of_isGap hc
    have hopens : opensBlock (front ++ [c]) = opensBlock front :=
      opensBlock_append_blank (by simp [Text.blank, hblank])
    refine Flat.unmarked (w := [c]) (by simpa using hplain) (by simp) ht hs rfl rfl ?_ hrest
    rw [lastColon, hopens]
    exact hplace.colon
  | @comment w v hw hv =>
    have hreturn : '\r' ∉ w := fun hmem => ht.no_return (by simp [hmem])
    have hne : v ≠ [] := Ended.ne_nil (u := '#' :: w) ht (by simp) (by simp [hw])
    exact .remark hw hreturn hv (hrest _ (atPlace_inside hs (.inl hne) hplace.colon))
  | @join v _ hnext hstart hline =>
    have hsame : openIn next = openIn s := by rw [openIn, openIn, hnext]
    have hinside : next.lineStart = false := hstart.trans hs
    rw [hline, hsame] at hrest
    refine .join (hopen hline fun x hx => absurd hx List.not_mem_nil) (hrest [] ?_)
    exact atPlace_inside hinside (.inr rfl) hplace.colon.right
  | @feed v _ hbrackets hnext hstart hline =>
    have hopens : opensBlock front = false := by
      cases hopens : opensBlock front with
      | false => rfl
      | true =>
        have hcolon := hplace.colon
        rw [lastColon, if_pos hopens] at hcolon
        exact absurd rfl (hcolon [] (ts.map (·.kind)))
    have hsame : openIn next = openIn s := by rw [openIn, openIn, hnext, hbrackets]
    rw [hline, hsame] at hrest
    refine .feed (fun _ => hopens) (hopen hline fun x hx => ?_) (hrest [] ?_)
    · rw [List.mem_singleton.1 hx]
      rfl
    · exact atPlace_front (fun _ => hnext) hplace.colon.right.right
  | @feedInside v _ hbrackets hnext hstart hline =>
    have hsame : openIn next = openIn s := by rw [openIn, openIn, hnext]
    rw [hline, hsame] at hrest
    refine .feed (fun hnone => ?_) (hopen hline fun x hx => absurd hx List.not_mem_nil)
      (hrest [] (atPlace_inside hstart (.inr rfl) hplace.colon.right))
    rw [openIn, List.reverse_eq_nil_iff, List.map_eq_nil_iff] at hnone
    exact absurd hnone hbrackets
  | @plain w v k _ hw hk hnext =>
    have hsame : openIn next = openIn s := by rw [openIn, openIn, hnext.brackets]
    refine .unmarked hw.plain hw.ne_nil ht (hnext.lineStart.trans hs) hnext.line hsame ?_ hrest
    cases hopens : opensBlock (front ++ w) with
    | true =>
      have hcolon := hplace.colon.right
      rw [hw.ends front hopens] at hcolon
      rw [lastColon_of_opens hopens]
      exact hcolon
    | false =>
      rw [lastColon_of_not hopens]
      exact hplace.colon.right.right
  | @literal c u v body raw formatted _ hline hnext hstart hfeeds =>
    have hsame : openIn next = openIn s := by rw [openIn, openIn, hnext]
    have hbody : '\n' ∉ body := hstrings _ List.mem_cons_self body rfl
    obtain ⟨letters, w, hsplit, hletters, hmarked⟩ := hline hbody ht.no_return
    have hfeed : '\n' ∉ letters ++ w := by
      rw [List.mem_append, not_or]
      exact ⟨fun hmem => hletters _ hmem (by decide), hmarked.no_feed⟩
    have hsameLine : next.line = s.line := by
      rw [hfeeds, hsplit, Text.lineFeeds, List.count_eq_zero.2 hfeed, Nat.add_zero]
    rw [← List.cons_append, hsplit, List.append_assoc] at ht ⊢
    exact .plain hletters (.marked hmarked ht.right (hstart.trans hs) hsameLine hsame
      hplace.colon.right.right hrest)
  | @opening c v _ hc hnext hstart hline =>
    have hmarked : IsMarked [c] (.opening c) v.head? := Brackets.isMarked_opening hc
    have hstep : openIn next = Brackets.step (openIn s) (.opening c) := by
      rw [openIn, hnext, List.reverse_cons]
      rfl
    exact Flat.marked (w := [c]) hmarked ht (hstart.trans hs) hline hstep hplace.colon.right.right
      hrest
  | @closing c b v _ hc hnext hstart hline =>
    have hmarked : IsMarked [c] .closing v.head? := Brackets.isMarked_closing hc
    have hfront : openIn s = openIn next ++ [b] := by
      rw [openIn, hnext, List.reverse_cons, openIn]
    have hstep : openIn next = Brackets.step (openIn s) .closing := by
      rw [hfront]
      exact List.dropLast_concat.symm
    exact Flat.marked (w := [c]) hmarked ht (hstart.trans hs) hline hstep hplace.colon.right.right
      hrest

lemma kinds_append (k : Option Script.TokenKind) (s next : LexState) (ts : List Script.Token) :
    (Script.made k s next ++ ts).map (·.kind) = k.toList ++ ts.map (·.kind) := by
  cases k <;> rfl

/-- **The lines of a script open no block** where no logical line ends in a colon, and the generator
sees the brackets of the script. -/
theorem flat_of_cuts {all ts : List Script.Token} {s : LexState} {t : Text} (h : Cuts s t ts)
    (ht : Ended t) (hstrings : StringsOnLines (ts.map (·.kind))) (hleft : Left all s ts)
    {front : Text} (hplace : AtPlace s t front (ts.map (·.kind))) :
    Flat all s.line front (openIn s) (Text.cutAtLineFeeds t) := by
  revert front
  refine Cuts.induction (P := fun s t ts => Ended t → StringsOnLines (ts.map (·.kind)) →
    Left all s ts → ∀ {front : Text}, AtPlace s t front (ts.map (·.kind)) →
      Flat all s.line front (openIn s) (Text.cutAtLineFeeds t)) ?_ ?_ ?_ ?_ h ht hstrings hleft
  · intro s _ _ _ hleft front hplace
    refine .finish (fun _ => hplace.ended rfl) ?_
    exact hleft.bracketsBefore_eq (Nat.lt_succ_self _)
      fun x hx hweight => absurd (Script.mem_lastTokens hx) hweight
  · intro s t k next v ts hs hbite hcuts ih ht hstrings hleft front hplace
    obtain ⟨u, hu, -⟩ := hbite.split
    rw [kinds_append] at hstrings hplace
    have hnext : Left all next ts := hleft.take hbite.line_le
      (fun x hx _ => (Script.mem_made hx).2 ▸ hbite.line_le) hbite.weight
    exact Flat.bite hs hbite ht hstrings hplace hleft hcuts.line_le
      fun front hplace => ih (hu ▸ ht).right hstrings.right hnext hplace
  · intro s t n v next ts hs hhollow hnext hstart hline hcuts ih ht hstrings hleft front hplace
    obtain ⟨hnone, hfront⟩ := hplace.start hs
    obtain ⟨u, hu, -⟩ := hhollow.split
    have hopen : openIn s = [] := by rw [openIn, hnone]; rfl
    have hopenNext : openIn next = [] := by rw [openIn, hnext, hnone]; rfl
    have hplaceNext : AtPlace next v [] (ts.map (·.kind)) :=
      atPlace_front (fun _ => hnext.trans hnone) hplace.colon.right
    have hleftNext : Left all next ts := by
      have hle : s.line ≤ next.line := hline ▸ Nat.le_add_right s.line n
      have hnothing : Left all s ([] ++ ts) := hleft
      refine hnothing.take hle (fun x hx => absurd hx List.not_mem_nil) ?_
      rw [hnext]
      exact Int.zero_add _
    have hrest := ih (hu ▸ ht).right hstrings hleftNext hplaceNext
    rw [hopenNext, hline] at hrest
    rw [hopen]
    refine .hollow hhollow ht.no_return hfront (fun m hlt hle => ?_) hrest
    have hlevel := hleft.bracketsBefore_eq hlt fun x hx hweight =>
      Nat.le_trans hle (hline ▸ hcuts.line_le x hx hweight)
    rw [hlevel, hopen]
  · intro s t closed opens line next ts hs hnext hstart hline ih ht hstrings hleft front hplace
    obtain ⟨hnone, hfront⟩ := hplace.start hs
    have hsame : openIn next = openIn s := by rw [openIn, openIn, hnext]
    have hleftNext : Left all next ts := by
      refine hleft.take (Nat.le_of_eq hline.symm)
        (fun x hx hweight => absurd (Script.mem_blockTokens hx).weight_eq hweight) ?_
      rw [Script.weight_blockTokens, hnext]
      exact Int.zero_add _
    rw [List.map_append] at hstrings hplace
    have hcolon : NoColonEnd (lastColon front ++ ts.map (·.kind)) := by
      rw [lastColon_of_not hfront]
      exact hplace.colon.right.right
    have hrest := ih ht hstrings.right hleftNext (atPlace_inside hstart (.inr hfront) hcolon)
    rwa [hsame, hline] at hrest

/-! ## Scripts without indented blocks -/

/-- What the tokens of a script are. -/
def Script.kinds (t : Text) : List Script.TokenKind := (Script.lex 1 t).list.map (·.kind)

section

variable {t : Text} {p : Script.Program}

lemma cuts_of_parse (h : Script.parse? t = some p) :
    Cuts { line := 1 } (Script.closedLines t) (Script.lex 1 t).list := by
  have hending : (Script.lex 1 t).ending = .complete := by
    by_contra hending
    rw [Script.parse?] at h
    exact absurd (h.symm.trans (if_neg hending)) nofun
  exact congrArg (Script.Tokens.mk _) hending

/-- The token that ends the script is the last, so the parser has taken them all. -/
lemma noColonEnd_of_parse (h : Script.parse? t = some p) (hindent : .indent ∉ Script.kinds t) :
    NoColonEnd (Script.kinds t) := by
  obtain ⟨front, last, htokens, -, hfront⟩ := (cuts_of_parse h).finish_last
  have hending : (Script.lex 1 t).ending = .complete :=
    congrArg Script.Tokens.ending (cuts_of_parse h)
  rw [Script.parse?] at h
  obtain ⟨⟨p, rest⟩, hrun, -⟩ := Option.map_eq_some_iff.1 ((if_pos hending).symm.trans h)
  obtain ⟨used, hsplit, hlast, hwhole⟩ := Script.Parser.indent_of_colon_newline hrun
  obtain ⟨x, hx, hkind⟩ := Option.map_eq_some_iff.1 hlast
  have hrest : rest = [] := by
    rcases List.eq_nil_or_concat rest with hnil | ⟨ks, k, hconcat⟩
    · exact hnil
    · rw [htokens, hconcat, List.concat_eq_append, ← List.append_assoc] at hsplit
      rw [(List.append_inj' hsplit rfl).1] at hfront
      exact absurd hkind (hfront x (List.mem_append_left ks (List.mem_of_getLast? hx)))
  rw [hrest, List.append_nil] at hsplit
  intro before behind hcolon
  rw [Script.kinds, hsplit] at hcolon hindent
  have hhead := hwhole.1 before behind hcolon
  rw [hcolon] at hindent
  exact hindent (by simp [List.mem_of_mem_head? hhead])

lemma ended_closedLines (hreturn : '\r' ∉ t) : Ended (Script.closedLines t) := by
  rw [Script.closedLines, Text.unifyLineEnds_of_not_mem hreturn]
  split
  · next hlast =>
    exact ⟨hreturn, fun c hc => Option.some.inj (hc.symm.trans hlast)⟩
  · refine ⟨by simp [hreturn], fun c hc => ?_⟩
    rw [List.getLast?_concat] at hc
    exact (Option.some.inj hc).symm

/-- **The lines of a script without indented blocks open no block**, and the generator sees the
brackets of the script. -/
theorem flat_lines (h : Script.parse? t = some p) (hreturn : '\r' ∉ t)
    (hindent : .indent ∉ Script.kinds t) (hstrings : StringsOnLines (Script.kinds t)) :
    Flat (Script.lex 1 t).list 1 [] [] (Text.cutAtLineFeeds t) := by
  have hleft : Left (Script.lex 1 t).list { line := 1 } (Script.lex 1 t).list :=
    ⟨[], rfl, fun x hx => absurd hx List.not_mem_nil, rfl⟩
  have hclosed : Flat (Script.lex 1 t).list 1 [] [] (Text.cutAtLineFeeds (Script.closedLines t)) :=
    flat_of_cuts (cuts_of_parse h) (ended_closedLines hreturn) hstrings hleft
      (atPlace_front (fun _ => rfl) (noColonEnd_of_parse h hindent))
  rw [Script.closedLines, Text.unifyLineEnds_of_not_mem hreturn] at hclosed
  split at hclosed
  · exact hclosed
  · rw [cutAtLineFeeds_feed] at hclosed
    exact hclosed.left

end

end ViewEngine

/-
# What stands behind an expression in a tag

The text of an output tag is put between parentheses, less a semicolon at its end, and with a line feed
if it has a number sign on its last line.  Neither rule knows where the expression ends, or whether the
number sign stands in a string.  Still a semicolon behind the expression changes nothing, and a comment
changes nothing: what is left of them are blanks and comments behind an argument.  A comment behind a
semicolon is another thing.  The semicolon is not at the end then, so it stays where it is, and the code
never compiles.

* `still_stripSemicolon`, `argument_comment`: the two rules on text behind an argument;
* `generate_tag`: the code of a view with one output tag;
* `Script.Reading.argument_trailed`, `Script.Reading.argument_semicolon`: what is left;
* `Script.Reading.compile_trailed`, `Script.Reading.compile_semicolon_comment`: what it is compiled to;
* `trailing_text_harmless`: what the views give.
-/
import Mathlib.Tactic.Common
import Mathlib.Tactic.Lemma
import ViewEngine.Proofs.Code.OutputTags
import ViewEngine.Proofs.Fragment.Failures
import ViewEngine.Proofs.Script.Arguments

namespace ViewEngine

open Fragment (appends compileAndRun_eq_settled)
open Script (Datum Expr IsArgument Reading Still)

/-! ## Semicolons at the end -/

section

variable {t u v : Text} {c d : Char} {n : Nat}

/-- What stands in front of a text that is not blank does not matter. -/
lemma stripSemicolon_append (u : Text) (hv : Text.blank v = false) :
    stripSemicolon (u ++ v) = u ++ stripSemicolon v := by
  rcases blank_or_last v with hblank | ⟨w, d, z, rfl, hd, hz⟩
  · rw [hblank] at hv
    cases hv
  rw [← List.append_assoc]
  by_cases hsemicolon : d = ';'
  · subst hsemicolon
    rw [stripSemicolon_semicolon _ hz, stripSemicolon_semicolon _ hz, List.append_assoc]
  · rw [stripSemicolon_other _ hd hsemicolon hz, stripSemicolon_other _ hd hsemicolon hz,
      List.append_assoc]

/-- Nor does a character that is no semicolon. -/
lemma stripSemicolon_cons (hc : c ≠ ';') (t : Text) :
    stripSemicolon (c :: t) = c :: stripSemicolon t := by
  cases ht : Text.blank t with
  | false => exact stripSemicolon_append [c] ht
  | true =>
    rw [stripSemicolon_blank ht]
    cases hblank : Text.isBlank c with
    | false => exact stripSemicolon_other [] hblank hc ht
    | true => exact stripSemicolon_blank (by rw [blank_cons, hblank, ht]; rfl)

lemma stripSemicolon_cases (t : Text) :
    stripSemicolon t = t ∨ ∃ u v, t = u ++ ';' :: v ∧ stripSemicolon t = u ++ v := by
  rcases blank_or_last t with hblank | ⟨u, d, v, rfl, hd, hv⟩
  · exact .inl (stripSemicolon_blank hblank)
  · by_cases hsemicolon : d = ';'
    · subst hsemicolon
      exact .inr ⟨u, v, rfl, stripSemicolon_semicolon u hv⟩
    · exact .inl (stripSemicolon_other u hd hsemicolon hv)

lemma mem_of_mem_stripSemicolon (h : c ∈ stripSemicolon t) : c ∈ t := by
  rcases stripSemicolon_cases t with heq | ⟨u, v, rfl, heq⟩
  · rwa [heq] at h
  · rw [heq] at h
    simp only [List.mem_append, List.mem_cons] at h ⊢
    tauto

lemma length_le_stripSemicolon (t : Text) : t.length ≤ (stripSemicolon t).length + 1 := by
  rcases stripSemicolon_cases t with heq | ⟨u, v, rfl, heq⟩
  · rw [heq]
    omega
  · rw [heq]
    simp only [List.length_append, List.length_cons]
    omega

/-- Text without tokens stays so. -/
lemma still_stripSemicolon (h : Still n t) : Still n (stripSemicolon t) := by
  induction h with
  | nil => exact .nil
  | gap hc _ ih =>
    rw [stripSemicolon_cons (by rintro rfl; cases hc)]
    exact ih.gap hc
  | feed _ ih =>
    rw [stripSemicolon_cons (by decide)]
    exact ih.feed
  | join _ ih =>
    rw [stripSemicolon_cons (by decide), stripSemicolon_cons (by decide)]
    exact ih.join
  | @remark n w t hw h ih =>
    rw [stripSemicolon_cons (by decide)]
    cases ht : Text.blank t with
    -- the comment itself may lose a semicolon
    | true =>
      rw [stripSemicolon_append_blank w (by rw [blank_cons, ht]; rfl)]
      exact h.remark fun hmem => hw (mem_of_mem_stripSemicolon hmem)
    | false =>
      rw [stripSemicolon_append w (by rw [blank_cons, ht]; rfl),
        stripSemicolon_cons (by decide)]
      exact ih.remark hw

lemma mayEndInComment_append (u : Text) (hv : '\n' ∉ v) : mayEndInComment (u ++ '#' :: v) = true := by
  have hlast : (u ++ '#' :: v).reverse.takeWhile (· ≠ '\n') =
      v.reverse ++ '#' :: u.reverse.takeWhile (· ≠ '\n') := by
    have hpass : ∀ c ∈ v.reverse, decide (c ≠ '\n') = true := by
      intro c hc
      simpa using ne_of_mem_of_not_mem (List.mem_reverse.1 hc) hv
    rw [List.reverse_append, List.reverse_cons, List.append_assoc,
      List.takeWhile_append_of_pos hpass]
    rfl
  rw [mayEndInComment, hlast]
  simp

/-- A comment behind a text is closed. -/
lemma argument_comment (u : Text) (hv : '\n' ∉ v) :
    argument (u ++ '#' :: v) = u ++ '#' :: (stripSemicolon v ++ ['\n']) := by
  have hnot : Text.blank ('#' :: v) = false := rfl
  rw [argument_eq, mayEndInComment_append u hv, if_pos rfl, stripSemicolon_append u hnot,
    stripSemicolon_cons (by decide)]
  simp

end

/-! ## Tags -/

/-- A text without the character between two texts occurs in one of these. -/
lemma infix_of_append_cons {w u v : Text} {c : Char} (hc : c ∉ w) (h : w <:+: u ++ c :: v) :
    w <:+: u ∨ w <:+: v := by
  obtain ⟨a, b, h⟩ := h
  rcases List.append_eq_append_iff.1 h with ⟨z, rfl, -⟩ | ⟨z, hz, hb⟩
  · exact .inl ⟨a, z, rfl⟩
  rcases z with _ | ⟨c', z⟩
  · rw [List.append_nil] at hz
    exact .inl ⟨a, [], by rw [hz, List.append_nil]⟩
  obtain ⟨rfl, rfl⟩ := List.cons.inj hb
  -- it ends behind the character, so it begins behind it
  rcases List.append_eq_append_iff.1 hz with ⟨y, -, rfl⟩ | ⟨y, rfl, hy⟩
  · exact absurd (by simp) hc
  rcases y with _ | ⟨c', y⟩
  · rw [List.nil_append] at hy
    exact absurd (hy ▸ List.mem_cons_self) hc
  · obtain ⟨rfl, rfl⟩ := List.cons.inj hy
    exact .inr ⟨y, b, rfl⟩

namespace Marker

/-- No marker reaches over a character that markers do not have. -/
lemma Unmarked.append_cons {u v : Text} {c : Char} (hu : Unmarked u) (hc : ∀ m : Marker, c ∉ m.text)
    (hv : Unmarked v) : Unmarked (u ++ c :: v) := by
  intro m hm
  exact (infix_of_append_cons (hc m) hm).elim (hu m) (hv m)

lemma semicolon_not_mem_text (m : Marker) : ';' ∉ m.text := by
  cases m <;> decide

lemma unmarked_nil : Unmarked [] := by decide

/-- The expression that an output tag appends, given the one it holds. -/
def shownExpr (m : Marker) (x : Expr) : Expr :=
  match m with
  | openEscaped => .call 1 (.name 1 Helper.escapeId) [.plain x]
  | _ => x

/-- In how many calls that expression stands in the argument of the call that appends it. -/
def calls : Marker → Nat
  | openEscaped => 1
  | _ => 0

lemma calls_lt (m : Marker) : m.calls < Script.bracketLimit := by
  cases m <;> decide

end Marker

namespace Generator

variable {m closer : Marker} {shown : Text → Text} {t : Text} {line : Int} {b : Bool} {d : Nat}

/-- The statement of an output tag. -/
lemma emits_shows (hm : m.shows? = some shown) (hclose : closer.isClose = true)
    (hfull : Text.blank (stripSemicolon t) = false) :
    Emits (tagPieces m closer t) line b (decide (closer ≠ .close)) d d
      [⟨d, shown (argument t), line⟩] := by
  cases m with
  | openEscaped =>
    cases hm
    refine emits_tag .escaped rfl (by decide) hclose fun done => ?_
    simp only [text, hfull, Bool.false_eq_true, if_false]
    rfl
  | openRaw =>
    cases hm
    refine emits_tag .raw rfl (by decide) hclose fun done => ?_
    simp only [text, hfull, Bool.false_eq_true, if_false]
    rfl
  | _ => cases hm

end Generator

lemma inside_of_unmarked {t : Text} (ht : Marker.Unmarked t) : Inside (spaced t) where
  unmarked := by
    have hbetween : Marker.Unmarked ([' '] ++ (t ++ [' '])) := ht.between rfl rfl
    exact hbetween
  front := ⟨' ', t ++ [' '], rfl, .inl rfl⟩
  last := ⟨' ' :: t, ' ', rfl, .inl rfl⟩

/-- The code of a view with one output tag. -/
lemma generate_tag {m : Marker} {shown : Text → Text} {t : Text} (hm : m.shows? = some shown)
    (ht : Marker.Unmarked t) (hfull : Text.blank (argument (spaced t)) = false) (name : Option Text) :
    ∃ g, generate (tag m t) name = .ok g ∧ g.code = row 0 (shown (argument (spaced t))) := by
  have hpieces : Text.pieces Marker.first? (tag m t) = tagPieces m .close (spaced t) := by
    have hall := pieces_inside m .close rfl (inside_of_unmarked ht) []
    have hempty : Text.pieces Marker.first? [] = [] := rfl
    rwa [List.append_nil, hempty, List.append_nil] at hall
  let l : Listing := { statements := [⟨0, shown (argument (spaced t)), 1⟩], depth := 0 }
  have hrun : Generator.run {} (tokens (tag m t)) = .ok { listing := l, trim := false } := by
    have hemits : Generator.Emits (tagPieces m .close (spaced t)) 1 false _ 0 0 _ :=
      Generator.emits_shows hm rfl (by rw [← blank_argument, hfull])
    rw [tokens, hpieces]
    exact hemits [] []
  refine ⟨l.toGenerated name (tag m t), ?_, List.append_nil _⟩
  rw [generate, hrun]

/-! ## Behind an argument -/

/-- A text with a comment behind it. -/
def commented (t c : Text) : Text := t ++ ' ' :: '#' :: ' ' :: c

/-- The texts of the tags that only have a semicolon or a comment behind their expression. -/
inductive Trailed (e c : Text) : Text → Prop where
  /-- The expression alone. -/
  | bare : Trailed e c e
  /-- A semicolon. -/
  | semicolon : Trailed e c (e ++ [';'])
  /-- A comment. -/
  | comment (hc : '\x00' ∉ c) : Trailed e c (commented e c)

/-- A comment stays behind its text, with the line feed that ends it. -/
lemma argument_commented (t : Text) {c : Text} (hline : '\n' ∉ c) :
    ∃ w, Still 1 w ∧ argument (spaced (commented t c)) = ' ' :: (t ++ w) := by
  have hcomment := argument_comment (' ' :: (t ++ [' '])) (v := ' ' :: (c ++ [' '])) (by simp [hline])
  refine ⟨' ' :: '#' :: (stripSemicolon (' ' :: (c ++ [' '])) ++ ['\n']), ?_, ?_⟩
  · exact (Still.nil.remark fun hmem => by simpa [hline] using mem_of_mem_stripSemicolon hmem).gap rfl
  · simpa [spaced, commented] using hcomment

namespace Script.Reading

variable {outer : Nat} {e c i w : Text} {x : Expr} (h : Reading outer e x)

include h

lemma stripSemicolon_core (t : Text) :
    stripSemicolon (' ' :: (h.core ++ t)) = ' ' :: (h.core ++ stripSemicolon t) := by
  obtain ⟨v, d, hcore, hblank, hsemicolon⟩ := h.last
  have hnot : Text.blank (d :: t) = false := by rw [blank_cons, hblank]; rfl
  have hcut : ∀ u, ' ' :: (h.core ++ u) = (' ' :: v) ++ d :: u := fun u => by simp [hcore]
  rw [hcut, hcut, stripSemicolon_append _ hnot, stripSemicolon_cons hsemicolon]

lemma blank_core (t : Text) : Text.blank (' ' :: (h.core ++ t)) = false := by
  obtain ⟨v, d, hcore, hblank, -⟩ := h.last
  simp [hcore, blank_cons, blank_append, hblank]

lemma spaced_append (t : Text) : spaced (e ++ t) = ' ' :: (h.core ++ (h.tail ++ (t ++ [' ']))) := by
  rw [spaced]
  conv_lhs => rw [h.enclosed.split]
  simp

lemma length_eq : e.length = h.core.length + h.tail.length := by
  conv_lhs => rw [h.enclosed.split]
  exact List.length_append

/-- **A semicolon or a comment leaves blanks and comments behind the argument.** -/
theorem argument_trailed (hi : Trailed e c i) (hline : '\n' ∉ c) :
    ∃ k w, Still k w ∧ argument (spaced i) = ' ' :: (h.core ++ w) ∧
      e.length ≤ (h.core ++ w).length + 1 := by
  have hlength := h.length_eq
  have hspace : Still 0 [' '] := Still.nil.gap rfl
  have hclosed : ∀ b : Bool, ∃ k, Still k (if b then ['\n'] else []) := fun b => by
    cases b with
    | true => exact ⟨1, Still.nil.feed⟩
    | false => exact ⟨0, .nil⟩
  cases hi with
  | bare =>
    have hspaced := h.spaced_append []
    rw [List.append_nil, List.nil_append] at hspaced
    obtain ⟨k, hk⟩ := hclosed (mayEndInComment (spaced e))
    have hlong := length_le_stripSemicolon (h.tail ++ [' '])
    refine ⟨_, _, (still_stripSemicolon (h.enclosed.still.append hspace)).append hk, ?_, ?_⟩
    · rw [argument_eq, hspaced, h.stripSemicolon_core]
      simp
    · simp only [List.length_append, List.length_cons, List.length_nil] at hlong ⊢
      omega
  | semicolon =>
    have hspaced := h.spaced_append [';']
    have hsemicolon := stripSemicolon_semicolon (' ' :: (h.core ++ h.tail)) (v := [' ']) rfl
    obtain ⟨k, hk⟩ := hclosed (mayEndInComment (spaced (e ++ [';'])))
    refine ⟨_, _, (h.enclosed.still.append hspace).append hk, ?_, ?_⟩
    · have hcut : ' ' :: (h.core ++ (h.tail ++ ([';'] ++ [' ']))) =
          ' ' :: (h.core ++ h.tail) ++ ';' :: [' '] := by simp
      rw [argument_eq, hspaced, hcut, hsemicolon]
      simp
    · simp only [List.length_append]
      omega
  | comment =>
    obtain ⟨w, hw, hargument⟩ := argument_commented e hline
    refine ⟨_, _, h.enclosed.still.append hw, ?_, ?_⟩
    · rw [hargument]
      conv_lhs => rw [h.enclosed.split]
      simp
    · simp only [List.length_append]
      omega

/-- A comment behind a semicolon leaves both. -/
theorem argument_semicolon (hline : '\n' ∉ c) :
    ∃ k w, Still k w ∧
      argument (spaced (commented (e ++ [';']) c)) = ' ' :: (h.core ++ (h.tail ++ ';' :: w)) := by
  obtain ⟨w, hw, hargument⟩ := argument_commented (e ++ [';']) hline
  refine ⟨_, w, hw, ?_⟩
  rw [hargument]
  conv_lhs => rw [h.enclosed.split]
  simp

variable {m : Marker} {shown : Text → Text} {k l : Nat} {v : Text} (hm : m.shows? = some shown)
  (houter : m.calls ≤ outer)

include hm houter

/-- The argument is compiled in an output tag. -/
lemma compile_shows (hw : Still k w) (hlength : e.length ≤ (h.core ++ w).length + 1)
    (hreturn : '\r' ∉ w) (hzero : '\x00' ∉ w) :
    compile (row 0 (shown (' ' :: (h.core ++ w)))) = .ok [appends 1 1 (m.shownExpr x)] := by
  cases m with
  | openEscaped =>
    cases hm
    exact h.compile_escaped houter hw hlength hreturn hzero
  | openRaw =>
    cases hm
    exact h.compile_raw hw hlength hreturn hzero
  | _ => cases hm

/-- With a semicolon behind it, the argument is not compiled. -/
lemma compile_shows_error (hv : Still l v) (hw : Still k w) (hreturn : '\r' ∉ v ++ ';' :: w) :
    ∃ line, compile (row 0 (shown (' ' :: (h.core ++ (v ++ ';' :: w))))) = .error line := by
  cases m with
  | openEscaped =>
    cases hm
    exact h.compile_escaped_error houter hv hw hreturn
  | openRaw =>
    cases hm
    exact h.compile_raw_error hv hw hreturn
  | _ => cases hm

end Script.Reading

/-! ## The tags -/

section

variable {e c i t : Text} {d : Char} {x : Expr} {m : Marker} {shown : Text → Text}

/-- An argument has no character that its text does not have, but for the line feed. -/
lemma not_mem_argument (hd : d ∉ t) (hne : d ≠ '\n') : d ∉ argument t := by
  rw [argument_eq]
  intro hmem
  rcases List.mem_append.1 hmem with hmem | hmem
  · exact hd (mem_of_mem_stripSemicolon hmem)
  · split at hmem <;> simp_all

lemma mem_stripSemicolon (hd : d ∈ t) (hne : d ≠ ';') : d ∈ stripSemicolon t := by
  rcases stripSemicolon_cases t with heq | ⟨u, v, rfl, heq⟩
  · rwa [heq]
  · rw [heq]
    simpa [hne] using hd

/-- But for the semicolon, it has all of them. -/
lemma mem_argument (hd : d ∈ t) (hne : d ≠ ';') : d ∈ argument t := by
  rw [argument_eq]
  exact List.mem_append_left _ (mem_stripSemicolon hd hne)

lemma mem_shown (hm : m.shows? = some shown) (hd : d ∈ t) : d ∈ row 0 (shown t) := by
  cases m with
  | openEscaped =>
    cases hm
    simp [Script.appendEscaped_eq, Script.row_appendRaw, hd]
  | openRaw =>
    cases hm
    simp [Script.row_appendRaw, hd]
  | _ => cases hm

lemma Script.compile_of_mem_zero (h : '\x00' ∈ t) : Script.compile t = .error none := by
  rw [Script.compile, if_pos (List.contains_iff_mem.2 h)]

lemma Trailed.not_mem (hi : Trailed e c i) (he : d ∉ e) (hc : d ∉ c) (hd : d ∉ [';', ' ', '#']) :
    d ∉ i := by
  simp only [List.mem_cons, List.not_mem_nil, or_false, not_or] at hd
  cases hi with
  | bare => exact he
  | semicolon => simp [he, hd.1]
  | comment => simp [commented, he, hc, hd.2.1, hd.2.2]

lemma Trailed.not_mem_zero (hi : Trailed e c i) (he : '\x00' ∉ e) : '\x00' ∉ i := by
  cases hi with
  | bare => exact he
  | semicolon => simp [he]
  | comment hc => simp [commented, he, hc]

lemma unmarked_commented (ht : Marker.Unmarked t) (hc : Marker.Unmarked c) :
    Marker.Unmarked (commented t c) := by
  have hblank : ∀ m : Marker, ' ' ∉ m.text := Marker.not_mem_text_of_isBlank rfl
  have hsign : Marker.Unmarked ['#'] := by decide
  exact ht.append_cons hblank (hsign.append_cons hblank hc)

lemma Trailed.unmarked (hi : Trailed e c i) (he : Marker.Unmarked e) (hc : Marker.Unmarked c) :
    Marker.Unmarked i := by
  cases hi with
  | bare => exact he
  | semicolon => exact he.append_cons Marker.semicolon_not_mem_text Marker.unmarked_nil
  | comment => exact unmarked_commented he hc

/-- What a script gives does not depend on the code that it was compiled from. -/
lemma toOption_compileAndRun {g g' : Generated} {p : Script.Program}
    (hname : ∀ n ∈ g.name, '\x00' ∉ n) (hname' : ∀ n ∈ g'.name, '\x00' ∉ n)
    (hg : Script.compile g.code = .ok p) (hg' : Script.compile g'.code = .ok p) (host : Host)
    (data : Datum) (helpers : Names Datum) :
    (compileAndRun host g data helpers).toOption = (compileAndRun host g' data helpers).toOption := by
  cases hdata : Mapping.context data with
  | error f =>
    simp only [compileAndRun, Template.compile_ok hname hg, Template.compile_ok hname' hg',
      Template.runWith, hdata]
    rfl
  | ok ctx =>
    rw [compileAndRun_eq_settled host helpers hname hg hdata,
      compileAndRun_eq_settled host helpers hname' hg' hdata]
    generalize (do
      let names ← Template.loadBindings (bindings helpers ctx)
      Script.runScript host.helpers p names : Script.Run Unit).run.run { coloured := host.coloured } = r
    rcases r with ⟨(_ | _) | _, _⟩ <;> rfl

/-- Code that does not compile is not run. -/
lemma compileAndRun_error {g : Generated} {line : Option Nat} (hname : ∀ n ∈ g.name, '\x00' ∉ n)
    (hg : Script.compile g.code = .error line) (host : Host) (data : Datum) (helpers : Names Datum) :
    compileAndRun host g data helpers = .error (.view (Template.compileError g line)) := by
  rw [compileAndRun, Template.compile_error hname hg]
  rfl

end

/-! ## What the tags do -/

namespace Script.Reading

variable {outer : Nat} {e c i w : Text} {d : Char} {x : Expr} {m : Marker} {shown : Text → Text}
  (h : Reading outer e x)

include h

lemma not_mem_behind (hargument : argument (spaced i) = ' ' :: (h.core ++ w)) (hi : d ∉ i)
    (hother : d ∉ [' ', '\n']) : d ∉ w := by
  simp only [List.mem_cons, List.not_mem_nil, or_false, not_or] at hother
  have hspaced : d ∉ spaced i := by simp [spaced, hi, hother.1]
  have hnot := not_mem_argument hspaced hother.2
  rw [hargument] at hnot
  exact fun hmem => hnot (List.mem_cons_of_mem _ (List.mem_append_right _ hmem))

/-- The code of a view with one output tag that holds the argument. -/
lemma generate_tag (hm : m.shows? = some shown) (hi : Marker.Unmarked i)
    (hargument : argument (spaced i) = ' ' :: (h.core ++ w)) (name : Option Text) :
    ∃ g, generate (tag m i) name = .ok g ∧ g.code = row 0 (shown (' ' :: (h.core ++ w))) := by
  have hfull : Text.blank (argument (spaced i)) = false := by rw [hargument, h.blank_core]
  obtain ⟨g, hgenerate, hcode⟩ := ViewEngine.generate_tag hm hi hfull name
  exact ⟨g, hgenerate, by rw [hcode, hargument]⟩

section

variable (hm : m.shows? = some shown) (houter : m.calls ≤ outer) (he : Marker.Unmarked e)
  (hc : Marker.Unmarked c) (hline : '\n' ∉ c) (hreturn : '\r' ∉ c) (name : Option Text)

include hm houter he hc hline hreturn

/-- **With a semicolon or a comment behind it, the expression is appended as without.** -/
theorem compile_trailed (hi : Trailed e c i) :
    ∃ g, generate (tag m i) name = .ok g ∧ compile g.code = .ok [appends 1 1 (m.shownExpr x)] := by
  obtain ⟨k, w, hw, hargument, hlength⟩ := h.argument_trailed hi hline
  obtain ⟨g, hgenerate, hcode⟩ := h.generate_tag hm (hi.unmarked he hc) hargument name
  have hbare : '\r' ∉ i := hi.not_mem h.no_return hreturn (by decide)
  have hzero : '\x00' ∉ i := hi.not_mem_zero h.no_zero
  exact ⟨g, hgenerate, hcode ▸ h.compile_shows hm houter hw hlength
    (h.not_mem_behind hargument hbare (by decide)) (h.not_mem_behind hargument hzero (by decide))⟩

/-- **With a comment behind a semicolon, the code does not compile.** -/
theorem compile_semicolon_comment :
    ∃ g line, generate (tag m (commented (e ++ [';']) c)) name = .ok g ∧
      compile g.code = .error line := by
  obtain ⟨k, w, hw, hargument⟩ := h.argument_semicolon hline
  have hunmarked : Marker.Unmarked (commented (e ++ [';']) c) :=
    unmarked_commented (he.append_cons Marker.semicolon_not_mem_text Marker.unmarked_nil) hc
  obtain ⟨g, hgenerate, hcode⟩ := h.generate_tag hm hunmarked hargument name
  have hbare : '\r' ∉ commented (e ++ [';']) c := by simp [commented, h.no_return, hreturn]
  obtain ⟨line, herror⟩ := h.compile_shows_error hm houter h.enclosed.still hw
    (h.not_mem_behind hargument hbare (by decide))
  exact ⟨g, line, hgenerate, hcode ▸ herror⟩

omit houter hreturn in
/-- Nor does it with a zero in the comment. -/
lemma compile_zero_comment (hzero : '\x00' ∈ c) :
    ∃ g line, generate (tag m (commented e c)) name = .ok g ∧ compile g.code = .error line := by
  obtain ⟨w, -, hargument⟩ := argument_commented e hline
  have hcore : argument (spaced (commented e c)) = ' ' :: (h.core ++ (h.tail ++ w)) := by
    rw [hargument, ← List.append_assoc, ← h.enclosed.split]
  obtain ⟨g, hgenerate, hcode⟩ := h.generate_tag hm (unmarked_commented he hc) hcore name
  have hspaced : '\x00' ∈ spaced (commented e c) := by simp [spaced, commented, hzero]
  have hinside := mem_shown hm (mem_argument hspaced (by decide))
  rw [hcore, ← hcode] at hinside
  exact ⟨g, none, hgenerate, compile_of_mem_zero hinside⟩

end

end Script.Reading

/-- What a view gives if it is compiled and its code comes to its end. -/
def rendered (host : Host) (source : Text) (name : Option Text) (data : Datum) (helpers : Names Datum) :
    Option Text :=
  match generate source name with
  | .ok g => (compileAndRun host g data helpers).toOption
  | .error _ => none

/-- **What may stand behind the expression of an output tag.**  The tags that hold an argument alone, one
with a semicolon behind it, and one with a comment behind it compile to the same script, which appends
the argument; so they give the same on any host and with any data.  With a comment behind a semicolon the
code does not compile, and neither does it with the character zero in the comment.  The view may have
any name that code can have. -/
theorem trailing_text_harmless {m : Marker} {shown : Text → Text} (hm : m.shows? = some shown)
    {e c : Text} {x : Expr} (he : IsArgument m.calls e x) (hmarker : Marker.Unmarked e)
    (hreturn : '\r' ∉ e) (hcmarker : Marker.Unmarked c) (hline : '\n' ∉ c) (hcreturn : '\r' ∉ c)
    {name : Option Text} (hname : ∀ n ∈ name, '\x00' ∉ n) :
    (∀ i, Trailed e c i → ∃ g, generate (tag m i) name = .ok g ∧ ∀ helpers warnings,
      Template.compile g helpers warnings =
        .ok { generated := g, script := [appends 1 1 (m.shownExpr x)], helpers, warnings }) ∧
    (∀ i j, Trailed e c i → Trailed e c j → ∀ host data helpers,
      rendered host (tag m i) name data helpers = rendered host (tag m j) name data helpers) ∧
    ∀ i, i = commented (e ++ [';']) c ∨ i = commented e c ∧ '\x00' ∈ c → ∃ g line,
      generate (tag m i) name = .ok g ∧ ∀ host data helpers,
        compileAndRun host g data helpers = .error (.view (Template.compileError g line)) := by
  obtain ⟨h⟩ := he.reading m.calls_lt hreturn
  have hcompiles (i) (hi : Trailed e c i) :=
    h.compile_trailed hm (Nat.le_refl _) hmarker hcmarker hline hcreturn name hi
  have hnamed {i : Text} {g : Generated} (hg : generate (tag m i) name = .ok g) :
      ∀ n ∈ g.name, '\x00' ∉ n :=
    (name_of_generate hg).symm ▸ hname
  refine ⟨fun i hi => ?_, ?_, ?_⟩
  · obtain ⟨g, hgenerate, hcode⟩ := hcompiles i hi
    exact ⟨g, hgenerate, fun _ _ => Template.compile_ok (hnamed hgenerate) hcode⟩
  · intro i j hi hj host data helpers
    obtain ⟨g, hgenerate, hcode⟩ := hcompiles i hi
    obtain ⟨g', hgenerate', hcode'⟩ := hcompiles j hj
    rw [rendered, rendered, hgenerate, hgenerate']
    exact toOption_compileAndRun (hnamed hgenerate) (hnamed hgenerate') hcode hcode' host data helpers
  · intro i hi
    have herror : ∃ g line, generate (tag m i) name = .ok g ∧ Script.compile g.code = .error line := by
      rcases hi with rfl | ⟨rfl, hzero⟩
      · exact h.compile_semicolon_comment hm (Nat.le_refl _) hmarker hcmarker hline hcreturn name
      · exact h.compile_zero_comment hm hmarker hcmarker hline name hzero
    obtain ⟨g, line, hgenerate, hcompile⟩ := herror
    exact ⟨g, line, hgenerate, compileAndRun_error (hnamed hgenerate) hcompile⟩

/-- What runs the following views. -/
def stockHost : Host := { helpers := Helper.stock }

/-- An expression over two lines, with both signs in a string and in a comment of its own, and a comment
with a semicolon behind it. -/
theorem trailing_text_harmless_lines :
    let e : Text := "('#;', # a; b\n x)[1]"
    let data : Datum := .dict [.mk (.text "x") (.text "<1>")]
    (∃ x g, IsArgument (Marker.calls .openEscaped) e x ∧
      generate (tag .openEscaped (commented e "so; far")) none = .ok g ∧
      Template.compile g [] [] = .ok {
        generated := g, script := [appends 1 1 (.call 1 (.name 1 "escape") [.plain x])] }) ∧
    rendered stockHost (tag .openEscaped (commented e "so; far")) none data [] = some "&lt;1&gt;" ∧
    (∃ g line, generate (tag .openRaw (commented (e ++ [';']) "so; far")) none = .ok g ∧
      compileAndRun stockHost g data [] = .error (.view (Template.compileError g line))) := by
  intro e data
  obtain ⟨x, hx⟩ : ∃ x, IsArgument (Marker.calls .openEscaped) e x :=
    Script.exists_isArgument (by decide +kernel) (by decide +kernel)
  obtain ⟨y, hy⟩ : ∃ y, IsArgument (Marker.calls .openRaw) e y :=
    Script.exists_isArgument (by decide +kernel) (by decide +kernel)
  have hc : '\x00' ∉ ("so; far" : Text) := by decide
  have hnone : ∀ n ∈ (none : Option Text), '\x00' ∉ n := fun n hn => by cases hn
  obtain ⟨hcompiles, hsame, -⟩ := trailing_text_harmless (m := .openEscaped) rfl hx (by decide +kernel)
    (by decide) (c := "so; far") (by decide) (by decide) (by decide) hnone
  obtain ⟨-, -, hfails⟩ := trailing_text_harmless (m := .openRaw) rfl hy (by decide +kernel)
    (by decide) (c := "so; far") (by decide) (by decide) (by decide) hnone
  obtain ⟨g, hgenerate, hcompile⟩ := hcompiles _ (.comment hc)
  obtain ⟨g', line, hgenerate', herror⟩ := hfails _ (.inl rfl)
  have halone : rendered stockHost (tag .openEscaped e) none data [] = some "&lt;1&gt;" := by
    decide +kernel
  exact ⟨⟨x, g, hx, hgenerate, hcompile [] []⟩,
    (hsame _ _ (.comment hc) .bare stockHost data []).trans halone, g', line, hgenerate', herror stockHost data []⟩

/-- A name alone is shown, and with a comment behind a semicolon it is not. -/
theorem comment_behind_semicolon_fails :
    let data : Datum := .dict [.mk (.text "x") (.int 1)]
    (∃ x, IsArgument (Marker.calls .openEscaped) "x" x) ∧
    tag .openEscaped "x" = "<%= x %>" ∧ tag .openEscaped (commented "x;" "c") = "<%= x; # c %>" ∧
    rendered stockHost "<%= x %>" none data [] = some "1" ∧
    (generate "<%= x; # c %>" none = .ok
        { code := "_append(escape( x; # c \n))\n", lineMap := [1, 1], source := some "<%= x; # c %>" } ∧
      (Script.compile "_append(escape( x; # c \n))\n").isOk = false) ∧
    rendered stockHost "<%= x; # c %>" none data [] = none := by
  intro data
  exact ⟨Script.exists_isArgument (by decide +kernel) (by decide +kernel), rfl, rfl, by decide +kernel,
    by decide +kernel, by decide +kernel⟩

end ViewEngine

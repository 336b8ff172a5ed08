/-
# Blanks

Which characters count as blank, and what remains of a text without the blanks at its ends.  The
set is the one that Unicode calls white space together with the four information separators.
-/
import ViewEngine.Text.Basic
import ViewEngine.Text.Ranges

namespace ViewEngine.Text

/-- The blank characters beyond the tab, the line breaks and the space of ASCII. -/
def wideBlankRanges : Ranges :=
  [(0x1c, 0x1f), (0x85, 0x85), (0xa0, 0xa0), (0x1680, 0x1680), (0x2000, 0x200a),
   (0x2028, 0x2029), (0x202f, 0x202f), (0x205f, 0x205f), (0x3000, 0x3000)]

/-- Is the character blank? -/
def isBlank (c : Char) : Bool :=
  c = ' ' || (9 ≤ c.toNat && c.toNat ≤ 13) || wideBlankRanges.has c

/-- Is the whole text blank? -/
def blank (t : Text) : Bool := t.all isBlank

/-- The text without the blanks in front. -/
def stripLeft (t : Text) : Text := t.dropWhile isBlank

/-- The text without the blanks at its end. -/
def stripRight : Text → Text
  | [] => []
  | c :: cs =>
    match stripRight cs with
    | [] => if isBlank c then [] else [c]
    | d :: ds => c :: d :: ds

/-- The text without the blanks at either end. -/
def strip (t : Text) : Text := stripRight (stripLeft t)

theorem stripRight_eq_nil_iff {t : Text} : stripRight t = [] ↔ blank t = true := by
  induction t with
  | nil => simp [stripRight, blank]
  | cons c cs ih =>
    rw [stripRight]
    split <;> rename_i h
    · have hb : blank cs = true := ih.1 h
      by_cases hc : isBlank c = true
      · simp_all [blank]
      · simp_all [blank]
    · have hb : ¬ blank cs = true := fun hb => by rw [ih.2 hb] at h; cases h
      simp only [blank, List.all_cons, Bool.and_eq_true] at hb ⊢
      simp_all

end ViewEngine.Text

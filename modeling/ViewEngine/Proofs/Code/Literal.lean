/-
# Literals that stand for their texts

A text is put into code as a literal.  What is read back is the text: the literal ends where it was
ended, no character of it ends its line, and its escapes stand for the characters that were escaped.

* `stringBody?_escape`: the literal ends at its closing quote;
* `unescape?_escape`: the literal stands for the text.
-/
import Mathlib.Tactic.Common
import Mathlib.Tactic.Lemma
import ViewEngine.Code.Literal
import ViewEngine.Script.Literal
import ViewEngine.Script.Token

namespace ViewEngine

/-! ## Characters of words -/

lemma toNat_of_isAlpha {c : Char} (h : c.isAlpha = true) :
    65 ≤ c.toNat ∧ c.toNat ≤ 90 ∨ 97 ≤ c.toNat ∧ c.toNat ≤ 122 := by
  have hranges : (decide (c.val ≥ 'A'.val ∧ c.val ≤ 'Z'.val) ||
      (decide (c.val ≥ 'a'.val) && decide (c.val ≤ 'z'.val))) = true := h
  simpa [UInt32.le_iff_toNat_le] using hranges

lemma toNat_of_isAlphanum {c : Char} (h : c.isAlphanum = true) :
    48 ≤ c.toNat ∧ c.toNat < 128 := by
  simp only [Char.isAlphanum, Char.isDigit, Bool.or_eq_true, Bool.and_eq_true, decide_eq_true_eq,
    UInt32.le_iff_toNat_le] at h
  rcases h with h | h
  · have hrange := toNat_of_isAlpha h
    omega
  · have hval : c.toNat = c.val.toNat := rfl
    have h0 : '0'.val.toNat = 48 := rfl
    have h9 : '9'.val.toNat = 57 := rfl
    omega

namespace Literal

/-! ## How characters are written -/

/-- The ways in which a character is written: as an escape, or as itself. -/
lemma escapeChar_cases (c : Char) :
    c = '\\' ∧ escapeChar c = ['\\', '\\'] ∨ c = '\n' ∧ escapeChar c = ['\\', 'n'] ∨
      c = '\r' ∧ escapeChar c = ['\\', 'r'] ∨ c = '"' ∧ escapeChar c = ['\\', '"'] ∨
      c = '\x00' ∧ escapeChar c = ['\\', 'x', '0', '0'] ∨
      (c ≠ '\\' ∧ c ≠ '\n' ∧ c ≠ '\r' ∧ c ≠ '"' ∧ c ≠ '\x00') ∧ escapeChar c = [c] := by
  unfold escapeChar
  split
  · exact .inl ⟨‹_›, rfl⟩
  split
  · exact .inr (.inl ⟨‹_›, rfl⟩)
  split
  · exact .inr (.inr (.inl ⟨‹_›, rfl⟩))
  split
  · exact .inr (.inr (.inr (.inl ⟨‹_›, rfl⟩)))
  split
  · exact .inr (.inr (.inr (.inr (.inl ⟨‹_›, rfl⟩))))
  · exact .inr (.inr (.inr (.inr (.inr ⟨⟨‹_›, ‹_›, ‹_›, ‹_›, ‹_›⟩, rfl⟩))))

lemma escape_nil : escape [] = [] := rfl

lemma escape_cons (c : Char) (t : Text) : escape (c :: t) = escapeChar c ++ escape t := rfl

/-- No character that would end a line, or that no script may hold, stands in a literal. -/
lemma not_mem_escape {d : Char} (hd : d = '\n' ∨ d = '\r' ∨ d = '\x00') (t : Text) :
    d ∉ escape t := by
  induction t with
  | nil => simp [escape_nil]
  | cons c t ih =>
    rw [escape_cons, List.mem_append, not_or]
    refine ⟨?_, ih⟩
    rcases escapeChar_cases c with ⟨-, h⟩ | ⟨-, h⟩ | ⟨-, h⟩ | ⟨-, h⟩ | ⟨-, h⟩ | ⟨hc, h⟩
    all_goals rw [h]
    · rcases hd with rfl | rfl | rfl <;> decide
    · rcases hd with rfl | rfl | rfl <;> decide
    · rcases hd with rfl | rfl | rfl <;> decide
    · rcases hd with rfl | rfl | rfl <;> decide
    · rcases hd with rfl | rfl | rfl <;> decide
    · obtain ⟨-, hn, hr, -, h0⟩ := hc
      rcases hd with rfl | rfl | rfl <;> simp [Ne.symm hn, Ne.symm hr, Ne.symm h0]

/-! ## Reading a literal -/

open Script

lemma stringBody?_backslash (d : Char) (r : Text) :
    stringBody? '"' false ('\\' :: d :: r) =
      (stringBody? '"' false r).map fun p => ('\\' :: d :: p.1, p.2 + 2) := by
  rw [stringBody?]
  rfl

lemma stringBody?_plain {c : Char} (hb : c ≠ '\\') (hn : c ≠ '\n') (hq : c ≠ '"') {r : Text}
    (hr : r ≠ []) :
    stringBody? '"' false (c :: r) =
      (stringBody? '"' false r).map fun p => (c :: p.1, p.2 + 1) := by
  obtain ⟨d, r, rfl⟩ := List.exists_cons_of_ne_nil hr
  rw [stringBody?]
  simp [hb, hn, hq]

/-- **A literal ends at its closing quote.** -/
theorem stringBody?_escape (t r : Text) :
    stringBody? '"' false (escape t ++ '"' :: r) = some (escape t, (escape t).length + 1) := by
  induction t with
  | nil =>
    cases r with
    | nil => rfl
    | cons c r => rw [escape_nil, List.nil_append, stringBody?]; rfl
  | cons c t ih =>
    have hne : escape t ++ '"' :: r ≠ [] := by simp
    rw [escape_cons]
    rcases escapeChar_cases c with ⟨-, h⟩ | ⟨-, h⟩ | ⟨-, h⟩ | ⟨-, h⟩ | ⟨-, h⟩ | ⟨hc, h⟩
    all_goals rw [h]
    · simp [stringBody?_backslash, ih]
    · simp [stringBody?_backslash, ih]
    · simp [stringBody?_backslash, ih]
    · simp [stringBody?_backslash, ih]
    · simp [stringBody?_backslash, stringBody?_plain, ih]
    · obtain ⟨hb, hn, -, hq, -⟩ := hc
      simp [stringBody?_plain hb hn hq hne, ih]

/-- What the escapes of a literal stand for. -/
lemma unescapeFrom_escapeChar {last : Option Text} (c : Char) (r : Text) :
    Text.unescapeFrom last 0 (escapeChar c ++ r) =
      (Text.unescapeFrom last 0 r).map (c :: ·) := by
  rcases escapeChar_cases c with ⟨rfl, h⟩ | ⟨rfl, h⟩ | ⟨rfl, h⟩ | ⟨rfl, h⟩ | ⟨rfl, h⟩ | ⟨hc, h⟩
  all_goals rw [h]
  · rfl
  · rfl
  · rfl
  · rfl
  · rfl
  · have hb := hc.1
    cases r <;> simp [Text.unescapeFrom, hb]

/-- **A literal stands for its text.** -/
theorem unescape?_escape (t : Text) : unescape? false (escape t) = some t := by
  show Text.unescapeFrom _ 0 (escape t) = some t
  induction t with
  | nil => rfl
  | cons c t ih => rw [escape_cons, unescapeFrom_escapeChar, ih]; rfl

end Literal

end ViewEngine

/-
# Texts

Every text of the library (a view, a name, generated code, output) is the list of its characters.
This file holds the few operations on texts that all modules share: joining, looking for a fixed
piece at the front, replacing single characters, and the decimal digits of numbers.
-/

namespace ViewEngine

/-- A text, character by character. -/
abbrev Text := List Char

instance : Coe String Text := ⟨String.toList⟩

/-- Texts that pass the test for equality are equal. -/
instance : LawfulBEq Text := inferInstance

namespace Text

/-- The texts of `ts` one after the other, with `sep` between neighbours. -/
def joinWith (sep : Text) : List Text → Text
  | [] => []
  | [t] => t
  | t :: u :: rest => t ++ sep ++ joinWith sep (u :: rest)

/-- What follows `p` when the text begins with `p`. -/
def after? : Text → Text → Option Text
  | [], t => some t
  | _ :: _, [] => none
  | p :: ps, c :: cs => if p = c then after? ps cs else none

theorem after?_eq_some_iff {p t r : Text} : after? p t = some r ↔ t = p ++ r := by
  induction p generalizing t with
  | nil => simp [after?, eq_comm]
  | cons a p ih =>
    cases t with
    | nil => simp [after?]
    | cons c cs =>
      by_cases h : a = c
      · simp [after?, h, ih]
      · simp [after?, h, Ne.symm h]

/-- Does the text begin with `p`? -/
def startsWith (p t : Text) : Bool := (after? p t).isSome

/-- Does the text end with `p`? -/
def endsWith (p t : Text) : Bool := startsWith p.reverse t.reverse

/-- Does `p` occur in the text? -/
def occurs (p : Text) : Text → Bool
  | [] => p.isEmpty
  | c :: cs => startsWith p (c :: cs) || occurs p cs

/-- The text with every character `c` replaced by the text `f c`. -/
def expand (f : Char → Text) (t : Text) : Text := t.flatMap f

@[simp] theorem expand_nil (f : Char → Text) : expand f [] = [] := rfl

@[simp] theorem expand_cons (f : Char → Text) (c : Char) (t : Text) :
    expand f (c :: t) = f c ++ expand f t := rfl

@[simp] theorem expand_append (f : Char → Text) (s t : Text) :
    expand f (s ++ t) = expand f s ++ expand f t := by
  simp [expand]

/-- The number of line feeds in the text. -/
def lineFeeds (t : Text) : Nat := t.count '\n'

@[simp] theorem lineFeeds_nil : lineFeeds [] = 0 := rfl

@[simp] theorem lineFeeds_append (s t : Text) :
    lineFeeds (s ++ t) = lineFeeds s + lineFeeds t := by
  simp [lineFeeds]

/-- The decimal digits of a natural number. -/
def ofNat (n : Nat) : Text := Nat.toDigits 10 n

/-- The decimal digits of an integer, after a minus sign if it is negative. -/
def ofInt : Int → Text
  | .ofNat n => ofNat n
  | .negSucc n => '-' :: ofNat (n + 1)

/-- The text with enough blanks in front to be `width` characters long. -/
def padLeft (width : Nat) (t : Text) : Text := List.replicate (width - t.length) ' ' ++ t

/-- The order of texts by the code points of their characters. -/
def le : Text → Text → Bool
  | [], _ => true
  | _ :: _, [] => false
  | a :: s, b :: t => a < b || (a = b && le s t)

/-- The texts in ascending order; equal ones keep their places. -/
def sort (ts : List Text) : List Text := ts.mergeSort le

/-- The texts in ascending order, each once. -/
def sortUnique (ts : List Text) : List Text := sort ts.eraseDups

end Text
end ViewEngine

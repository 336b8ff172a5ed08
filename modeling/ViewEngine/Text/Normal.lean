/-
# Compatible forms of names

Names that differ only in the width or the style of their letters, or in whether an accent is
written as a mark of its own, are one name.  The form that stands for all of them is reached in
three steps (the form NFKC of the Unicode standard): every character is *decomposed* into the
plain characters it is made of, the *marks* behind a base are put in the order of their classes,
and each base is *composed* again with the marks that it can take up.
-/
import ViewEngine.Text.NormalTable

namespace ViewEngine.Text

/-- An entry of a table: the code points before the sign and those behind it. -/
abbrev Entry := List Nat × List Nat

/-- The value of a hexadecimal digit. -/
def hexValue (c : Char) : Nat :=
  if c.isDigit then c.toNat - '0'.toNat else c.toNat - 'a'.toNat + 10

/-- Reads hexadecimal numbers with full stops between them; `n` is the number begun so far. -/
def readCodes (n : Nat) : Text → List Nat
  | [] => [n]
  | c :: cs => if c = '.' then n :: readCodes 0 cs else readCodes (16 * n + hexValue c) cs

/-- Reads one entry. -/
def readEntry (t : Text) : Entry :=
  (readCodes 0 (t.takeWhile (· ≠ '=')), readCodes 0 ((t.dropWhile (· ≠ '=')).drop 1))

/-- Reads the lines of a table. -/
def readEntries (lines : List String) : List Entry :=
  lines.flatMap fun l => (l.toList.splitBy fun a b => a ≠ ' ' && b ≠ ' ').filterMap fun t =>
    if t = [' '] then none else some (readEntry t)

/-- The decompositions of the characters that may stand in a name. -/
def decompositions : List Entry := readEntries decompositionEntries

/-- The runs of marks, with their classes. -/
def markClasses : List Entry := readEntries classEntries

/-- The pairs of characters that compose. -/
def compositions : List Entry := readEntries compositionEntries

/-- The first Hangul syllable; each has a leading consonant, a vowel and perhaps a final one. -/
def firstSyllable : Nat := 0xac00

/-- The first leading consonant. -/
def leadBase : Nat := 0x1100

/-- The first vowel of a syllable. -/
def vowelBase : Nat := 0x1161

/-- One less than the code point of the first final consonant. -/
def finalBase : Nat := 0x11a7

/-- The plain characters that a character is made of. -/
def decomposeChar (c : Char) : Text :=
  if c.toNat < 128 then [c]
  else if firstSyllable ≤ c.toNat ∧ c.toNat < firstSyllable + 19 * 21 * 28 then
    let k := c.toNat - firstSyllable
    [Char.ofNat (leadBase + k / 588), Char.ofNat (vowelBase + k % 588 / 28)] ++
      if k % 28 = 0 then [] else [Char.ofNat (finalBase + k % 28)]
  else match decompositions.find? fun e => e.1 = [c.toNat] with
    | some e => e.2.map Char.ofNat
    | none => [c]

/-- The combining class of a character: 0 for a base, and for a mark the place where it is
attached. -/
def markClass (c : Char) : Nat :=
  if c.toNat < 0x300 then 0
  else match markClasses.find? fun e => e.1.headD 0 ≤ c.toNat && c.toNat ≤ e.1.getLastD 0 with
    | some e => e.2.headD 0
    | none => 0

/-- Puts a character behind a text that is given last character first: a mark passes the marks of
higher classes. -/
def settle (c : Char) : Text → Text
  | [] => [c]
  | d :: ds =>
    if markClass c ≠ 0 ∧ markClass c < markClass d then d :: settle c ds else c :: d :: ds

/-- The text with the marks behind each base in the order of their classes. -/
def orderMarks (t : Text) : Text := (t.foldl (fun done c => settle c done) []).reverse

/-- The character that two characters compose to. -/
def composePair? (a b : Char) : Option Char :=
  let i := a.toNat - leadBase
  let j := b.toNat - vowelBase
  let k := b.toNat - finalBase
  let s := a.toNat - firstSyllable
  if leadBase ≤ a.toNat ∧ i < 19 ∧ vowelBase ≤ b.toNat ∧ j < 21 then
    some (Char.ofNat (firstSyllable + (i * 21 + j) * 28))
  else if firstSyllable ≤ a.toNat ∧ s < 19 * 21 * 28 ∧ s % 28 = 0 ∧ 0 < k ∧ k < 28 then
    some (Char.ofNat (a.toNat + k))
  else (compositions.find? fun e => e.1 = [a.toNat, b.toNat]).map fun e =>
    Char.ofNat (e.2.headD 0)

/-- A text that is being composed. -/
structure Composing where
  /-- The characters that nothing can change any more, last first. -/
  done : Text := []
  /-- The last base. -/
  base : Option Char := none
  /-- The marks behind the base that it did not take up, last first. -/
  marks : Text := []

namespace Composing

/-- The composed text. -/
def text (s : Composing) : Text := (s.marks ++ s.base.toList ++ s.done).reverse

/-- Takes one more character.  The base takes it up if the two compose and no mark of the same or a
higher class stands between them. -/
def add (s : Composing) (c : Char) : Composing :=
  let free := s.marks.head?.all fun m => markClass m < markClass c
  match s.base.bind fun b => if free then composePair? b c else none with
  | some p => { s with base := some p }
  | none =>
    if markClass c = 0 then ⟨s.marks ++ s.base.toList ++ s.done, some c, []⟩
    else { s with marks := c :: s.marks }

end Composing

/-- The form under which a name is looked up. -/
def compatible (t : Text) : Text :=
  ((orderMarks (expand decomposeChar t)).foldl Composing.add {}).text

end ViewEngine.Text

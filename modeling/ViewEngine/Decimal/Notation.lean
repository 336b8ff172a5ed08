/-
# Notations of numbers

A number of limited precision with so many digits behind the point, with so many digits and an
exponent, or with so many digits in the shorter of the two.  Digits are rounded to the nearest; a
tie goes to the even neighbour.
-/
import ViewEngine.Decimal.Shortest

namespace ViewEngine.Decimal

/-- A text of digits with zeros in front to fill a width. -/
def padZeros (width : Nat) (ds : Text) : Text := List.replicate (width - ds.length) '0' ++ ds

/-- Digits behind a point; without digits the point stands only if it is wanted. -/
def pointed (point : Bool) (front back : Text) : Text :=
  if back.isEmpty && !point then front else front ++ '.' :: back

/-- The magnitude of a number with so many digits behind the point. -/
def fixedText (point : Bool) (places : Nat) (b : Binary) : Text :=
  let n := roundDiv (b.fraction.1 * Nat.pow 10 places) b.fraction.2
  let ds := padZeros (places + 1) (Text.ofNat n)
  pointed point (ds.take (ds.length - places)) (ds.drop (ds.length - places))

/-- The first digits of a magnitude, `places` behind the leading one, and the exponent of that. -/
def leadingDigits (places : Nat) (b : Binary) : Text × Int :=
  if b.mantissa = 0 then (List.replicate (places + 1) '0', 0)
  else
    let e := magnitude b.fraction.1 b.fraction.2 - 1
    let s := scaleDownTen b.fraction.1 b.fraction.2 (e - places)
    let n := roundDiv s.1 s.2
    if n < Nat.pow 10 (places + 1) then (Text.ofNat n, e) else (Text.ofNat (n / 10), e + 1)

/-- The magnitude of a number with an exponent. -/
def scientificText (point : Bool) (places : Nat) (b : Binary) : Text :=
  let (ds, e) := leadingDigits places b
  pointed point (ds.take 1) (ds.drop 1) ++ exponentText e

/-- The magnitude of a number in so many digits; without `full` zeros at the end are dropped. -/
def generalText (full : Bool) (count : Nat) (b : Binary) : Text :=
  let count := max 1 count
  let (ds, e) := leadingDigits (count - 1) b
  let trim (t : Text) : Text := if full then t else (t.reverse.dropWhile (· = '0')).reverse
  if -4 ≤ e ∧ e < count then
    let front := if e < 0 then ['0'] else ds.take (e.toNat + 1)
    let back := if e < 0 then List.replicate ((-e).toNat - 1) '0' ++ ds else ds.drop (e.toNat + 1)
    pointed full front (trim back)
  else pointed full (ds.take 1) (trim (ds.drop 1)) ++ exponentText e

/-- The notations. -/
inductive Notation where
  | fixed | scientific | general
deriving DecidableEq, Repr

/-- A number in a notation; `point` asks for a point and all digits in any case. -/
def Notation.text (n : Notation) (point : Bool) (places : Nat) (x : Float) : Text :=
  match read x with
  | .undefined => "nan"
  | .infinite negative => if negative then "-inf" else "inf"
  | .finite b =>
    let t := match n with
      | fixed => fixedText point places b
      | scientific => scientificText point places b
      | general => generalText point places b
    if b.negative then '-' :: t else t

end ViewEngine.Decimal

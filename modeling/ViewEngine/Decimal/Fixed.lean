/-
# Amounts with two places

A number with exactly two digits behind the point and commas between groups of three digits in front
of it.  The number is rounded to the nearest hundredth; a tie goes to the even neighbour.
-/
import ViewEngine.Decimal.Binary
import ViewEngine.Text.Basic

namespace ViewEngine.Decimal

/-- Puts a comma before every group of three digits; takes the digits in reverse order. -/
def groupReversed : Text → Text
  | a :: b :: c :: d :: rest => a :: b :: c :: ',' :: groupReversed (d :: rest)
  | ds => ds

/-- Digits in groups of three. -/
def grouped (ds : Text) : Text := (groupReversed ds.reverse).reverse

/-- The text of so many hundredths. -/
def hundredthsText (n : Nat) : Text :=
  let cents := Text.ofNat (n % 100)
  grouped (Text.ofNat (n / 100)) ++ '.' :: (if cents.length < 2 then '0' :: cents else cents)

/-- A number as an amount. -/
def amount (x : Float) : Text :=
  match read x with
  | .undefined => "nan"
  | .infinite negative => if negative then "-inf" else "inf"
  | .finite b =>
    let t := hundredthsText (roundDiv (b.fraction.1 * 100) b.fraction.2)
    if b.negative then '-' :: t else t

end ViewEngine.Decimal

/-
# Shortest decimal texts

A number of limited precision stands for all reals that round to it.  Its text is the decimal with
the fewest digits among those reals, and the nearest one to the number among several.
-/
import ViewEngine.Decimal.Binary
import ViewEngine.Text.Basic

namespace ViewEngine.Decimal

/-- A decimal: `digits * 10 ^ exponent`. -/
structure Digits where
  /-- The digits as a number. -/
  digits : Nat
  /-- The power of ten. -/
  exponent : Int
deriving DecidableEq, Repr

/-- The quotient `num / den` divided by `10 ^ power`, as a quotient. -/
def scaleDownTen (num den : Nat) (power : Int) : Nat × Nat :=
  if 0 ≤ power then (num, den * Nat.pow 10 power.toNat) else (num * Nat.pow 10 (-power).toNat, den)

/-- The interval of reals that round to a number: its ends as multiples of `2 ^ exponent`, and
whether they belong to it. -/
structure Interval where
  /-- The lower end. -/
  lower : Nat
  /-- The upper end. -/
  upper : Nat
  /-- The power of two in which both are counted. -/
  exponent : Int
  /-- Do the ends round to the number too? -/
  closed : Bool

/-- The interval of a finite number that is not zero.  Below a power of two the neighbour is half as
far away, so ends are counted in quarters. -/
def Binary.interval (b : Binary) : Interval where
  lower := 4 * b.mantissa - if b.mantissa = Nat.pow 2 52 ∧ -1074 < b.exponent then 1 else 2
  upper := 4 * b.mantissa + 2
  exponent := b.exponent - 2
  closed := b.mantissa % 2 = 0

/-- The number `m * 2 ^ e` as a quotient. -/
def binaryFraction (m : Nat) (e : Int) : Nat × Nat :=
  if 0 ≤ e then (m * Nat.pow 2 e.toNat, 1) else (m, Nat.pow 2 (-e).toNat)

/-- Does the quotient `a` lie below the quotient `b`? -/
def below (a b : Nat × Nat) : Bool := a.1 * b.2 < b.1 * a.2

/-- Does the decimal lie in the interval? -/
def Interval.has (i : Interval) (d : Digits) : Bool :=
  let x := if 0 ≤ d.exponent then (d.digits * Nat.pow 10 d.exponent.toNat, 1)
    else (d.digits, Nat.pow 10 (-d.exponent).toNat)
  let lo := binaryFraction i.lower i.exponent
  let hi := binaryFraction i.upper i.exponent
  if i.closed then !below x lo && !below hi x else below lo x && below x hi

/-- The neighbour of a number on the decimal grid of step `10 ^ power` that rounds to the number; of
two the nearer one. -/
def onGrid? (b : Binary) (power : Int) : Option Digits :=
  let s := scaleDownTen b.fraction.1 b.fraction.2 power
  let down : Digits := ⟨s.1 / s.2, power⟩
  let up : Digits := ⟨s.1 / s.2 + 1, power⟩
  let near : Digits := ⟨roundDiv s.1 s.2, power⟩
  match b.interval.has down, b.interval.has up with
  | true, true => some near
  | true, false => some down
  | false, true => some up
  | false, false => none

/-- The number of decimal digits in front of the point of a quotient, or minus the number of zeros
behind it. -/
def magnitude (num den : Nat) : Int :=
  let guess : Int := ((num.log2 : Int) - den.log2) * 30103 / 100000 - 1
  let fits (k : Int) : Bool :=
    let s := scaleDownTen num den k
    s.1 < s.2
  if fits guess then guess
  else if fits (guess + 1) then guess + 1
  else if fits (guess + 2) then guess + 2
  else guess + 3

/-- The first of the grids of steps `10 ^ power`, `10 ^ (power - 1)`, … that has a hit. -/
def firstGrid (b : Binary) : Nat → Int → Digits
  | 0, power => ⟨0, power⟩
  | n + 1, power => (onGrid? b power).getD (firstGrid b n (power - 1))

/-- The shortest decimal of a finite number. -/
def shortest (b : Binary) : Digits :=
  if b.mantissa = 0 then ⟨0, 0⟩
  else firstGrid b 18 (magnitude b.fraction.1 b.fraction.2 - 1)

/-- The digits without zeros at the end. -/
def withoutZeros (ds : Text) : Text :=
  match (ds.reverse.dropWhile (· = '0')).reverse with
  | [] => ['0']
  | r => r

/-- How exponents are written: with a sign and at least two digits. -/
def exponentText (e : Int) : Text :=
  let ds := Text.ofNat e.natAbs
  'e' :: (if e < 0 then '-' else '+') :: (if ds.length < 2 then '0' :: ds else ds)

/-- Digits with the decimal point behind the first `point` of them.  Positions from minus three to
sixteen are written out, with at least one digit behind the point; others take an exponent. -/
def pointText (ds : Text) (point : Int) : Text :=
  if point < -3 ∨ 16 < point then
    (match ds with
     | d :: [] => [d]
     | d :: rest => d :: '.' :: rest
     | [] => []) ++ exponentText (point - 1)
  else if point ≤ 0 then
    '0' :: '.' :: List.replicate (-point).toNat '0' ++ ds
  else
    let n := point.toNat
    let front := ds.take n ++ List.replicate (n - ds.length) '0'
    let back := ds.drop n
    front ++ '.' :: (if back.isEmpty then ['0'] else back)

/-- The text of a finite number without its sign. -/
def magnitudeText (b : Binary) : Text :=
  let d := shortest b
  if d.digits = 0 then "0.0"
  else
    let ds := Text.ofNat d.digits
    pointText (withoutZeros ds) (ds.length + d.exponent)

/-- The text of a number. -/
def text (x : Float) : Text :=
  match read x with
  | .undefined => "nan"
  | .infinite negative => if negative then "-inf" else "inf"
  | .finite b => if b.negative then '-' :: magnitudeText b else magnitudeText b

end ViewEngine.Decimal

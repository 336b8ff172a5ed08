/-
# Arithmetic

Whole numbers are exact and unbounded; numbers with a fraction have limited precision.  Where the
two meet, the whole number is rounded first.  Quotients and remainders of whole numbers go to the
floor, so that a remainder has the sign of the divisor; those of other numbers follow the same rule.
-/
import ViewEngine.Decimal.Shortest
import ViewEngine.Script.Value

namespace ViewEngine.Script

/-- A value that can be calculated with. -/
inductive Number where
  | int (value : Int)
  | float (value : Float)

/-- The value as a number; truth values count as one and zero. -/
def Value.number? : Value → Option Number
  | bool b => some (.int (if b then 1 else 0))
  | int _ n => some (.int n)
  | float _ x => some (.float x)
  | _ => Option.none

/-- The value as a whole number. -/
def Value.whole? : Value → Option Int
  | bool b => some (if b then 1 else 0)
  | int _ n => some n
  | _ => Option.none

namespace Number

/-- The greatest absolute value, and one more, of whole numbers that can be written or read. -/
def textLimit : Nat := Nat.pow 10 4300

/-- What is said about a whole number with too many digits. -/
def limitMessage : Text := "Exceeds the limit (4300 digits) for integer string conversion"

/-- The text of a whole number. -/
def intText (n : Int) : Run Text :=
  if n.natAbs < textLimit then return Text.ofInt n
  else Run.fail .value (limitMessage ++ "; use sys.set_int_max_str_digits() to increase the limit")

/-- The whole number as one of limited precision. -/
def rounded (n : Int) : Run Float :=
  match Decimal.ofInt? n with
  | some x => return x
  | none => Run.fail .overflow "int too large to convert to float"

/-- The number with limited precision. -/
def toFloat : Number → Run Float
  | .int n => rounded n
  | .float x => return x

/-- Zero with a sign. -/
def signedZero (negative : Bool) : Float := Decimal.ofMagnitude negative 0

/-- Is the sign a minus? -/
def isNegative (x : Float) : Bool := x.toBits.toNat / Nat.pow 2 63 = 1

/-- The remainder of a division towards zero of two finite numbers, the second not zero. -/
def remainderToZero (a b : Decimal.Binary) : Float :=
  let e := min a.exponent b.exponent
  let x := a.mantissa * Nat.pow 2 (a.exponent - e).toNat
  let y := b.mantissa * Nat.pow 2 (b.exponent - e).toNat
  let r := Decimal.binaryFraction (x % y) e
  (Decimal.ofFraction? a.negative r.1 r.2).getD Decimal.infinity

/-- The remainder of a division towards zero; there is none of an infinity. -/
def truncatedRemainder (x y : Float) : Float :=
  match Decimal.read x, Decimal.read y with
  | .finite a, .finite b => remainderToZero a b
  | .finite _, .infinite _ => x
  | _, _ => 0.0 / 0.0

/-- Quotient and remainder of a division to the floor by a number that is not zero. -/
def floorDivision (x y : Float) : Float × Float :=
  let r := truncatedRemainder x y
  let d := (x - r) / y
  let shifted := r != 0.0 && (isNegative y != isNegative r)
  let remainder := if r == 0.0 then signedZero (isNegative y) else if shifted then r + y else r
  let d := if shifted then d - 1.0 else d
  let quotient :=
    if d == 0.0 then signedZero (isNegative (x / y))
    else
      let f := d.floor
      if d - f > 0.5 then f + 1.0 else f
  (quotient, remainder)

/-- Is the number odd? -/
def isOdd (x : Float) : Bool :=
  match Decimal.read x with
  | .finite b => b.whole?.any fun n => n % 2 ≠ 0
  | _ => false

/-- A power of which an operand is infinite or the base is zero; `none` if the power is an ordinary
one.  The exponent is not zero. -/
def specialPower? (x y : Float) : Option (Run Value) :=
  if x.isNaN then some (Run.newFloat x)
  else if y.isNaN then some (Run.newFloat (if x == 1.0 then 1.0 else y))
  else if y.isInf then
    let x := x.abs
    some (Run.newFloat
      (if x == 1.0 then 1.0 else if (y > 0.0) == (x > 1.0) then Decimal.infinity else 0.0))
  else if x.isInf then
    let r := if y > 0.0 then Decimal.infinity else 0.0
    some (Run.newFloat (if isOdd y && isNegative x then -r else r))
  else if x == 0.0 then
    some (if y < 0.0 then Run.fail .zeroDivision "0.0 cannot be raised to a negative power"
      else Run.newFloat (if isOdd y then x else 0.0))
  else none

/-- A power of numbers of limited precision. -/
def floatPower (x y : Float) : Run Value :=
  if y == 0.0 then Run.newFloat 1.0
  else match specialPower? x y with
    | some r => r
    | none => do
      let r := x.pow y
      if r.isInf then
        Run.raise .overflow [← Run.newInt 34, ← Run.newText "Numerical result out of range"]
      else Run.newFloat r

/-- A quotient of whole numbers, rounded once. -/
def intQuotient (a b : Int) : Run Value :=
  if b = 0 then Run.fail .zeroDivision "division by zero"
  else match Decimal.ofFraction? ((a < 0) != (b < 0)) a.natAbs b.natAbs with
    | some x => Run.newFloat x
    | none => Run.fail .overflow "integer division result too large for a float"

/-- An operation on whole numbers. -/
def onInts (op : BinaryOp) (a b : Int) : Run Value :=
  match op with
  | .add => Run.newInt (a + b)
  | .subtract => Run.newInt (a - b)
  | .multiply => Run.newInt (a * b)
  | .divide => intQuotient a b
  | .floorDivide =>
    if b = 0 then Run.fail .zeroDivision "integer division or modulo by zero"
    else Run.newInt (a.fdiv b)
  | .remainder =>
    if b = 0 then Run.fail .zeroDivision "integer modulo by zero" else Run.newInt (a.fmod b)
  | .power =>
    if 0 ≤ b then Run.newInt (a.pow b.toNat)
    else do floatPower (← rounded a) (← rounded b)

/-- An operation on numbers of limited precision. -/
def onFloats (op : BinaryOp) (x y : Float) : Run Value :=
  match op with
  | .add => Run.newFloat (x + y)
  | .subtract => Run.newFloat (x - y)
  | .multiply => Run.newFloat (x * y)
  | .divide =>
    if y == 0.0 then Run.fail .zeroDivision "float division by zero" else Run.newFloat (x / y)
  | .floorDivide =>
    if y == 0.0 then Run.fail .zeroDivision "float floor division by zero"
    else Run.newFloat (floorDivision x y).1
  | .remainder =>
    if y == 0.0 then Run.fail .zeroDivision "float modulo"
    else Run.newFloat (floorDivision x y).2
  | .power => floatPower x y

/-- An operation on two numbers. -/
def apply (op : BinaryOp) : Number → Number → Run Value
  | .int a, .int b => onInts op a b
  | a, b => do onFloats op (← a.toFloat) (← b.toFloat)

/-- The order of a whole number and a finite number of limited precision. -/
def compareIntFinite (n : Int) (b : Decimal.Binary) : Ordering :=
  let f := b.fraction
  let m : Int := if b.negative then -(f.1 : Int) else f.1
  compare (n * f.2) m

/-- The order of two numbers; none if one of them is no number. -/
def order? : Number → Number → Option Ordering
  | .int a, .int b => some (compare a b)
  | .float x, .float y =>
    if x < y then some .lt else if x == y then some .eq else if y < x then some .gt else none
  | .int a, .float y =>
    match Decimal.read y with
    | .undefined => none
    | .infinite negative => some (if negative then .gt else .lt)
    | .finite b => some (compareIntFinite a b)
  | .float x, .int b =>
    match Decimal.read x with
    | .undefined => none
    | .infinite negative => some (if negative then .lt else .gt)
    | .finite a => some (compareIntFinite b a).swap

/-- The number with its sign changed. -/
def negate : Number → Run Value
  | .int n => Run.newInt (-n)
  | .float x => Run.newFloat (-x)

/-- How many digits of thirty bits a whole number has, and the first of them. -/
def leadingDigit (n : Int) : Nat × Nat :=
  let size := if n = 0 then 0 else n.natAbs.log2 / 30 + 1
  (size, n.natAbs / Nat.pow 2 (30 * (size - 1)))

/-- Is the remainder of a division the dividend itself?  That is so if the divisor is large and the
leading digits tell that the dividend is smaller, and the signs do not differ. -/
def remainderIsSelf (a b : Int) : Bool :=
  let (m, x) := leadingDigit a
  let (n, y) := leadingDigit b
  1 < n && (m < n || (m = n && x < y)) && (0 ≤ a) == (0 < b)

/-- Is the number not zero? -/
def isTrue : Number → Bool
  | .int n => n != 0
  | .float x => !(x == 0.0)

end Number
end ViewEngine.Script

/-
# Binary numbers of limited precision

A finite number of 64 bits is a mantissa of at most 53 bits times a power of two.  This file takes
such numbers apart and makes the nearest one from a fraction of natural numbers, so that decimal
texts, whole numbers and quotients are all rounded by one rule.
-/

namespace ViewEngine.Decimal

/-- A finite number: `mantissa * 2 ^ exponent` with a sign. -/
structure Binary where
  /-- Is the sign a minus? -/
  negative : Bool
  /-- The mantissa. -/
  mantissa : Nat
  /-- The power of two. -/
  exponent : Int
deriving DecidableEq, Repr

/-- What a number of 64 bits stands for. -/
inductive Reading where
  /-- No number. -/
  | undefined
  /-- Infinity. -/
  | infinite (negative : Bool)
  /-- A finite number. -/
  | finite (value : Binary)
deriving DecidableEq, Repr

/-- The number that 64 bits stand for. -/
def readBits (bits : Nat) : Reading :=
  let negative := bits / Nat.pow 2 63 = 1
  let power : Nat := bits / Nat.pow 2 52 % 2048
  let fraction := bits % Nat.pow 2 52
  if power = 2047 then if fraction = 0 then .infinite negative else .undefined
  else if power = 0 then .finite ⟨negative, fraction, -1074⟩
  else .finite ⟨negative, fraction + Nat.pow 2 52, (power : Int) - 1075⟩

/-- What a number stands for. -/
def read (x : Float) : Reading := readBits x.toBits.toNat

/-- The natural number nearest to `num / den`; of two equally near the even one. -/
def roundDiv (num den : Nat) : Nat :=
  let q := num / den
  let r := num % den
  if den < 2 * r ∨ (2 * r = den ∧ q % 2 = 1) then q + 1 else q

/-- The quotient `num / den` divided by `2 ^ power`, as a quotient. -/
def scaleDown (num den : Nat) (power : Int) : Nat × Nat :=
  if 0 ≤ power then (num, den * Nat.pow 2 power.toNat) else (num * Nat.pow 2 (-power).toNat, den)

/-- The exponent at which `num / den` has a mantissa of 53 bits, or the least one there is. -/
def exponentFor (num den : Nat) : Int :=
  let guess := (num.log2 : Int) - den.log2 - 53
  let s := scaleDown num den (guess + 53)
  max (if s.2 ≤ s.1 then guess + 1 else guess) (-1074)

/-- The bits of the number nearest to `num / den`; `none` if it is too large. -/
def nearestBits? (num den : Nat) : Option Nat :=
  let e := exponentFor num den
  let s := scaleDown num den e
  let bits := (e + 1074).toNat * Nat.pow 2 52 + roundDiv s.1 s.2
  if bits < 2047 * Nat.pow 2 52 then some bits else none

/-- The number of the given sign and bits. -/
def ofMagnitude (negative : Bool) (bits : Nat) : Float :=
  Float.ofBits (UInt64.ofNat (bits + if negative then Nat.pow 2 63 else 0))

/-- Infinity. -/
def infinity : Float := ofMagnitude false (2047 * Nat.pow 2 52)

/-- The number nearest to a fraction; `none` if it is too large. -/
def ofFraction? (negative : Bool) (num den : Nat) : Option Float :=
  if num = 0 then some (ofMagnitude negative 0)
  else (nearestBits? num den).map (ofMagnitude negative)

/-- The number nearest to a whole number; `none` if it is too large. -/
def ofInt? (n : Int) : Option Float := ofFraction? (n < 0) n.natAbs 1

/-- The number nearest to `digits * 10 ^ exponent`; infinity if it is too large. -/
def ofDecimal (digits : Nat) (exponent : Int) : Float :=
  if digits = 0 then ofMagnitude false 0
  else if 400 < exponent + digits.log2 / 4 then infinity
  else if exponent + (digits.log2 / 3 + 1 : Nat) < -400 then ofMagnitude false 0
  else
    let f : Nat × Nat :=
      if 0 ≤ exponent then (digits * Nat.pow 10 exponent.toNat, 1)
      else (digits, Nat.pow 10 (-exponent).toNat)
    (ofFraction? false f.1 f.2).getD infinity

namespace Binary

/-- The magnitude of a finite number as a quotient. -/
def fraction (b : Binary) : Nat × Nat :=
  if 0 ≤ b.exponent then (b.mantissa * Nat.pow 2 b.exponent.toNat, 1)
  else (b.mantissa, Nat.pow 2 (-b.exponent).toNat)

/-- The whole number that remains when the fraction is cut off. -/
def truncate (b : Binary) : Int :=
  let m : Int := b.fraction.1 / b.fraction.2
  if b.negative then -m else m

/-- The whole number that the number is, if it is one. -/
def whole? (b : Binary) : Option Int :=
  if b.fraction.1 % b.fraction.2 = 0 then some b.truncate else none

end Binary
end ViewEngine.Decimal

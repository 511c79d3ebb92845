/-!
# Shortest decimals of binary fractions

A finite positive double is `mantissa * 2 ^ exponent`.  Every real number between the two
midpoints to its neighbours reads back as the same double; the midpoints themselves do so
when the mantissa is even.  Among the decimals that read back, the shortest one is found by
testing, for one digit, two digits and so on, the two neighbours of the double on the grid of
decimals with that many digits.  All tests are exact comparisons of natural numbers.
-/

namespace GroupSync

namespace Number

/-- A positive binary fraction `mantissa * 2 ^ exponent`, as a double stores it. -/
structure Binary where
  mantissa : Nat
  exponent : Int
deriving DecidableEq, Repr

/-- A positive decimal `digits * 10 ^ exponent`. -/
structure Decimal where
  digits : Nat
  exponent : Int
deriving DecidableEq, Repr

structure Fraction where
  numerator : Nat
  denominator : Nat

def Fraction.scaled (factor base : Nat) (exponent : Int) : Fraction :=
  if 0 ≤ exponent then ⟨factor * Nat.pow base exponent.toNat, 1⟩
  else ⟨factor, Nat.pow base (-exponent).toNat⟩

/-- Order of fractions, by cross multiplication. -/
def Fraction.le (first second : Fraction) : Bool :=
  first.numerator * second.denominator ≤ second.numerator * first.denominator

def Fraction.lt (first second : Fraction) : Bool :=
  first.numerator * second.denominator < second.numerator * first.denominator

/-- The mantissa from which on a double uses all its bits. -/
def leastNormalMantissa : Nat := 0x10000000000000

/-- The exponent of the smallest doubles. -/
def leastExponent : Int := -1074

/-- The midpoint to the next smaller double.  Below a power of two the neighbours are twice
as dense, except at the bottom of the range. -/
def Binary.lowerMidpoint (value : Binary) : Fraction :=
  if value.mantissa = leastNormalMantissa ∧ leastExponent < value.exponent then
    .scaled (4 * value.mantissa - 1) 2 (value.exponent - 2)
  else .scaled (4 * value.mantissa - 2) 2 (value.exponent - 2)

def Binary.upperMidpoint (value : Binary) : Fraction :=
  .scaled (4 * value.mantissa + 2) 2 (value.exponent - 2)

def Binary.readsBack (value : Binary) (decimal : Decimal) : Bool :=
  let candidate := Fraction.scaled decimal.digits 10 decimal.exponent
  if value.mantissa % 2 = 0 then
    value.lowerMidpoint.le candidate && candidate.le value.upperMidpoint
  else value.lowerMidpoint.lt candidate && candidate.lt value.upperMidpoint

/-- Count the powers of ten up to a fraction, downwards from an upper bound. -/
def leadingExponentFrom (value : Fraction) : Nat → Int → Int
  | 0, guess => guess
  | steps + 1, guess =>
      if (Fraction.scaled 1 10 guess).le value then guess
      else leadingExponentFrom value steps (guess - 1)

def Binary.leadingExponent (value : Binary) : Int :=
  leadingExponentFrom (.scaled value.mantissa 2 value.exponent) 640 310

/-- The nearer of the two neighbours on a decimal grid that read back; the even one of two
that are equally near. -/
def Binary.onGrid? (value : Binary) (exponent : Int) : Option Decimal :=
  let exact := Fraction.scaled value.mantissa 2 value.exponent
  let unit := Fraction.scaled 1 10 exponent
  let numerator := exact.numerator * unit.denominator
  let denominator := exact.denominator * unit.numerator
  let below : Nat := numerator / denominator
  let remainder : Nat := numerator % denominator
  let lower : Decimal := ⟨below, exponent⟩
  let upper : Decimal := ⟨below + 1, exponent⟩
  match value.readsBack lower, value.readsBack upper with
  | false, false => none
  | true, false => some lower
  | false, true => some upper
  | true, true =>
      if 2 * remainder < denominator then some lower
      else if denominator < 2 * remainder then some upper
      else if below % 2 = 0 then some lower
      else some upper

/-- The first hit among the grids with `count`, `count + 1`, … digits. -/
def Binary.shortestFrom (value : Binary) (leading : Int) : Nat → Nat → Decimal
  | 0, _ => ⟨0, 0⟩
  | tries + 1, count =>
      match value.onGrid? (leading - count + 1) with
      | some decimal => decimal
      | none => value.shortestFrom leading tries (count + 1)

/-- The shortest decimal that reads back as a double. -/
def Binary.shortest (value : Binary) : Decimal :=
  value.shortestFrom value.leadingExponent 17 1

/-- The binary fraction of a finite double, without its sign. -/
def magnitude (bits : UInt64) : Binary :=
  let stored : Nat := (bits.toNat / 0x10000000000000) % 0x800
  let fraction : Nat := bits.toNat % 0x10000000000000
  if stored = 0 then ⟨fraction, leastExponent⟩
  else ⟨leastNormalMantissa + fraction, (stored : Int) + leastExponent - 1⟩

def isFiniteBits (bits : UInt64) : Bool :=
  (bits.toNat / 0x10000000000000) % 0x800 < 2047

def isNegativeBits (bits : UInt64) : Bool :=
  0x8000000000000000 ≤ bits.toNat

end Number

end GroupSync

/-!
# Binary fractions

A finite double is a sign, a whole mantissa and a power of two.  Everything that
writes a number in decimal works on that exact value, never on the double itself.
-/

namespace SpatialWorkload.Decimal

/-- What the 64 bits of a double stand for. -/
inductive Binary where
  | nan
  | infinite (negative : Bool)
  | finite (negative : Bool) (mantissa : Nat) (exponent : Int)
  deriving DecidableEq, Repr

namespace Binary

/-- The leading bit of a normal mantissa, which is not stored. -/
def hiddenBit : Nat := 4503599627370496

/-- Subnormal numbers share the exponent of the smallest normal one. -/
def ofFields (negative : Bool) (exponentField fraction : Nat) : Binary :=
  if exponentField = 2047 then
    if fraction = 0 then .infinite negative else .nan
  else if exponentField = 0 then .finite negative fraction (-1074)
  else .finite negative (hiddenBit + fraction) ((exponentField : Int) - 1075)

def signBit : Nat := 9223372036854775808

def ofBits (bits : UInt64) : Binary :=
  ofFields (decide (signBit ≤ bits.toNat)) (bits.toNat / hiddenBit % 2048)
    (bits.toNat % hiddenBit)

def ofFloat (number : Float) : Binary :=
  ofBits number.toBits

end Binary

/-- A positive rational, written as a quotient of two naturals. -/
structure Ratio where
  numerator : Nat
  denominator : Nat
  deriving DecidableEq, Repr

namespace Ratio

def ofBinary (mantissa : Nat) (exponent : Int) : Ratio :=
  ⟨mantissa * Nat.pow 2 exponent.toNat, Nat.pow 2 (-exponent).toNat⟩

def scaleDown (value : Ratio) (power : Int) : Ratio :=
  ⟨value.numerator * Nat.pow 10 (-power).toNat, value.denominator * Nat.pow 10 power.toNat⟩

def floor (value : Ratio) : Nat :=
  value.numerator / value.denominator

def belowPower (value : Ratio) (power : Int) : Bool :=
  let scaled := value.scaleDown power
  decide (scaled.numerator < scaled.denominator)

/-- Walks upward to the first power of ten above the value. -/
def climb (value : Ratio) : Nat → Int → Int
  | 0, power => power
  | fuel + 1, power =>
      if value.belowPower power then power else climb value fuel (power + 1)

/--
The `p` with `10 ^ (p - 1) ≤ value < 10 ^ p`.  The binary logarithm times
`log10 2` is at most two steps below it.
-/
def decimalPoint (value : Ratio) (log2 : Int) : Int :=
  value.climb 4 (log2 * 30103 / 100000 - 1)

end Ratio

/-- Reads the decimal digits of a number; zero has the digit `0`. -/
def digits (value : Nat) : List Char :=
  Nat.toDigits 10 value

def dropTrailingZeros (text : List Char) : List Char :=
  (text.reverse.dropWhile (· == '0')).reverse

end SpatialWorkload.Decimal

import SpatialWorkload.Decimal.Binary

/-!
# Elementary functions on doubles

The logarithm, the exponential and the whole part, computed in exact integer arithmetic on
fixed-point numbers with 160 binary places and rounded once at the end.  The kernel can
evaluate all three, so a rate or a key drawn from it is a value and not a name.
-/

namespace SpatialWorkload.Elementary

open Decimal (Binary)

def places : Nat := 160

def unit : Nat := Nat.pow 2 places

/-- Adds `term / odd + term * square / (odd + 2) + …`. -/
def oddSeries (square : Nat) : Nat → Nat → Nat → Nat → Nat
  | 0, _, _, sum => sum
  | steps + 1, term, odd, sum =>
      oddSeries square steps (term * square / unit) (odd + 2) (sum + term / odd)

/-- The natural logarithm of `(1 + ratio) / (1 - ratio)` for a ratio of at most a third. -/
def logOfRatio (ratio : Nat) : Nat :=
  2 * oddSeries (ratio * ratio / unit) 60 ratio 1 0

def ln2 : Nat := logOfRatio (unit / 3)

/-- A fixed-point number as a double, rounded once. -/
def toFloat (negative : Bool) (value : Nat) : Float :=
  let magnitude := Float.ofNat value / Float.ofNat unit
  if negative then -magnitude else magnitude

/--
The logarithm of `mantissa * 2 ^ exponent`: with the fraction brought between one and two,
its logarithm and a multiple of the logarithm of two.
-/
def lnOfBinary (mantissa : Nat) (exponent : Int) : Float :=
  let power : Int := exponent + mantissa.log2
  let fraction := mantissa * unit / Nat.pow 2 mantissa.log2
  let total : Int :=
    power * ln2 + logOfRatio ((fraction - unit) * unit / (fraction + unit))
  toFloat (decide (total < 0)) total.natAbs

def notANumber : Float := Float.ofBits 0x7FF8000000000000

def infinity : Float := Float.ofBits 0x7FF0000000000000

def ln (number : Float) : Float :=
  match Binary.ofFloat number with
  | .nan => notANumber
  | .infinite false => infinity
  | .finite _ 0 _ => -infinity
  | .finite false mantissa exponent => lnOfBinary mantissa exponent
  | _ => notANumber

/-- Adds `term + term * x / index + term * x * x / (index * (index + 1)) + …`. -/
def powerSeries (x : Int) : Nat → Int → Int → Int → Int
  | 0, _, _, sum => sum
  | steps + 1, term, index, sum =>
      powerSeries x steps (term * x / ((unit : Int) * index)) (index + 1) (sum + term)

/-- Division by a power of two, in two steps where one would leave the range of doubles. -/
def scaleDown (value : Float) (power : Nat) : Float :=
  if power ≤ 1000 then value / Float.ofNat (Nat.pow 2 power)
  else value / Float.ofNat (Nat.pow 2 1000) / Float.ofNat (Nat.pow 2 (power - 1000))

def expOfFixed (value : Int) : Float :=
  let power := value / ln2
  let rest := value - power * ln2
  let fraction := (powerSeries rest 50 unit 1 0).toNat
  if 0 ≤ power then Float.ofNat (fraction * Nat.pow 2 power.toNat) / Float.ofNat unit
  else scaleDown (Float.ofNat fraction / Float.ofNat unit) (-power).toNat

/-- Beyond 2000 in magnitude every exponential is infinite or zero. -/
def exp (number : Float) : Float :=
  match Binary.ofFloat number with
  | .nan => notANumber
  | .infinite negative => if negative then 0 else infinity
  | .finite negative mantissa exponent =>
      if 2000 < number then infinity
      else if number < -2000 then 0
      else
        let shift := exponent + places
        let magnitude : Nat := mantissa * Nat.pow 2 shift.toNat / Nat.pow 2 (-shift).toNat
        expOfFixed (if negative then -(magnitude : Int) else magnitude)

/-- Doubles from `2 ^ 53` on are whole. -/
def floor (number : Float) : Float :=
  if 0 ≤ number then
    if number < 9007199254740992 then number.toUInt64.toFloat else number
  else if -9007199254740992 < number then
    let toward := (-number).toUInt64.toFloat
    if toward < -number then -(toward + 1) else -toward
  else number

/--
Doubles in one total order: by sign and magnitude of their bits, so that negative zero
comes before zero and what is no number comes last on its side.
-/
def rank (number : Float) : Int :=
  let bits := number.toBits.toNat
  if bits < Binary.signBit then bits else -((bits - Binary.signBit : Nat) : Int) - 1

end SpatialWorkload.Elementary

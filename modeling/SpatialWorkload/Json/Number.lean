import SpatialWorkload.Decimal.Literal

/-!
# Numbers in JSON

A number is kept as it is written until it is asked for as a word or as a double.  A double
is computed from a 64-bit significand and one power of ten, so that its last digit may
differ from that of the nearest double.
-/

namespace SpatialWorkload.Json

/-- The parts of a written number; a fraction or an exponent has at least one digit. -/
structure Number where
  negative : Bool
  whole : List Char
  fraction : List Char
  /-- The sign of the exponent and its digits. -/
  exponent : Option (Bool × List Char)
  deriving DecidableEq, Repr

namespace Number

def scanDigits (text : List Char) : Option (List Char × List Char) :=
  let digits := text.takeWhile Char.isDigit
  if digits.isEmpty then none else some (digits, text.dropWhile Char.isDigit)

def scanFraction : List Char → Option (List Char × List Char)
  | '.' :: rest => scanDigits rest
  | rest => some ([], rest)

def scanExponent : List Char → Option (Option (Bool × List Char) × List Char)
  | mark :: rest =>
      if mark = 'e' ∨ mark = 'E' then
        let (negative, digits) := match rest with
          | '-' :: digits => (true, digits)
          | '+' :: digits => (false, digits)
          | digits => (false, digits)
        (scanDigits digits).map fun (digits, rest) => (some (negative, digits), rest)
      else some (none, mark :: rest)
  | [] => some (none, [])

/-- A number does not begin with a zero, unless that is all of its whole part. -/
def scan (text : List Char) : Option (Number × List Char) := do
  let (negative, text) := match text with
    | '-' :: rest => (true, rest)
    | rest => (false, rest)
  let (whole, text) ← scanDigits text
  if whole.head? = some '0' ∧ whole ≠ ['0'] then none
  else
    let (fraction, text) ← scanFraction text
    let (exponent, text) ← scanExponent text
    return (⟨negative, whole, fraction, exponent⟩, text)

def word? (number : Number) : Option UInt64 :=
  if number.negative ∨ number.fraction ≠ [] ∨ number.exponent.isSome then none
  else
    let value := Decimal.digitsValue 0 number.whole
    if value < UInt64.size then some (UInt64.ofNat value) else none

/-- Reads digits onto a value as long as it fits a word; the others are left. -/
def absorb (value : Nat) : List Char → Nat × List Char
  | [] => (value, [])
  | digit :: rest =>
      let next := Decimal.digitsValue value [digit]
      if next < UInt64.size then absorb next rest else (value, digit :: rest)

/-- Multiplies by a power of ten; a magnitude beyond every double has no value. -/
def scale (value : Float) (power : Int) : Option Float :=
  if power < -308 then
    if value == 0 then some value
    else scale (value / Float.ofScientific 1 false 308) (power + 308)
  else if power < 0 then some (value / Float.ofScientific 1 false (-power).toNat)
  else if power ≤ 308 then
    let scaled := value * Float.ofScientific 1 false power.toNat
    if scaled.isFinite then some scaled else none
  else if value == 0 then some value
  else none
termination_by (-power).toNat

/-- No exponent reaches past this one. -/
def largestExponent : Nat := 2147483647

def power? : Option (Bool × List Char) → Option Int
  | none => some 0
  | some (negative, digits) =>
      let value := Decimal.digitsValue 0 digits
      if largestExponent < value then none
      else some (if negative then -(value : Int) else value)

/-- The magnitude of a number: zero where its exponent is too far below every double. -/
def magnitude? (number : Number) : Option Float :=
  let (head, dropped) := absorb 0 number.whole
  let (significand, ignored) := absorb head number.fraction
  let point := (dropped.length + ignored.length : Int) - number.fraction.length
  match power? number.exponent with
  | some power => scale (UInt64.ofNat significand).toFloat (point + power)
  | none =>
      if significand ≠ 0 ∧ number.exponent.any fun exponent => !exponent.1 then none
      else some 0

def float? (number : Number) : Option Float :=
  number.magnitude?.map fun magnitude => if number.negative then -magnitude else magnitude

end Number

end SpatialWorkload.Json

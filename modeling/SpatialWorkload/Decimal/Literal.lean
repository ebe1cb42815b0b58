/-!
# Reading numbers

Whole numbers are an optional sign and digits that must fit their type.  Decimal
fractions have digits with at most one point and an optional exponent, or one of the
words `inf`, `infinity` and `nan` in any case.
-/

namespace SpatialWorkload.Decimal

def digitsValue (accumulator : Nat) : List Char → Nat
  | [] => accumulator
  | digit :: rest => digitsValue (10 * accumulator + (digit.toNat - '0'.toNat)) rest

/-- A non-empty string of ASCII digits. -/
def natural? (text : List Char) : Option Nat :=
  if text.isEmpty || !text.all Char.isDigit then none else some (digitsValue 0 text)

/-- An unsigned number may carry a plus sign, never a minus sign. -/
def unsigned? (limit : Nat) (text : List Char) : Option Nat :=
  let body := match text with
    | '+' :: rest => rest
    | other => other
  (natural? body).filter (· ≤ limit)

def integer? (limit : Nat) : List Char → Option Int
  | '-' :: rest => ((natural? rest).filter (· ≤ limit + 1)).map fun value => -(value : Int)
  | text => (unsigned? limit text).map Int.ofNat

/-- Digits, a possible point and further digits, with what follows them. -/
structure Figures where
  value : Nat
  places : Nat
  rest : List Char

def figures? (text : List Char) : Option Figures :=
  let whole := text.takeWhile Char.isDigit
  let afterWhole := text.dropWhile Char.isDigit
  let (fraction, rest) := match afterWhole with
    | '.' :: tail => (tail.takeWhile Char.isDigit, tail.dropWhile Char.isDigit)
    | other => ([], other)
  if whole.isEmpty && fraction.isEmpty then none
  else some ⟨digitsValue 0 (whole ++ fraction), fraction.length, rest⟩

/-- An absent exponent is zero; a present one has at least one digit. -/
def exponent? : List Char → Option Int
  | [] => some 0
  | mark :: rest =>
      if mark == 'e' || mark == 'E' then
        match rest with
        | '-' :: digits => (natural? digits).map fun value => -(value : Int)
        | '+' :: digits => (natural? digits).map Int.ofNat
        | digits => (natural? digits).map Int.ofNat
      else none

/--
The double nearest to `value * 10 ^ power`.  A magnitude beyond every double needs no
exact power of ten: a positive number with a power above 400 is infinite, and one whose
digits all stand below the 400th place is zero.
-/
def nearest (value : Nat) (power : Int) : Float :=
  if value = 0 then 0
  else if 400 < power then Float.ofScientific 1 false 400
  else if power + (value.log2 : Int) < -400 - (value.log2 : Int) then 0
  else if 0 ≤ power then Float.ofScientific value false power.toNat
  else Float.ofScientific value true (-power).toNat

def infinity : Float := Float.ofBits 0x7FF0000000000000

def notANumber : Float := Float.ofBits 0x7FF8000000000000

def magnitude? (text : List Char) : Option Float :=
  let word := String.ofList (text.map Char.toLower)
  if word == "inf" || word == "infinity" then some infinity
  else if word == "nan" then some notANumber
  else do
    let figures ← figures? text
    let exponent ← exponent? figures.rest
    return nearest figures.value (exponent - figures.places)

def float? : List Char → Option Float
  | '-' :: rest => (magnitude? rest).map fun value => -value
  | '+' :: rest => magnitude? rest
  | text => magnitude? text

end SpatialWorkload.Decimal

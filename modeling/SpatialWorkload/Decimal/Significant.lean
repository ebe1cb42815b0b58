import SpatialWorkload.Decimal.Shortest

/-!
# Twelve significant digits

Computed distances and degrees are compared to twelve significant digits: one digit, a
point, eleven digits and a decimal exponent.  The exact binary value is rounded, a half
to the even neighbour, and both zeros are written `0`.
-/

namespace SpatialWorkload.Decimal

def roundHalfEven (numerator denominator : Nat) : Nat :=
  let quotient := numerator / denominator
  let twice := 2 * (numerator % denominator)
  if twice < denominator then quotient
  else if denominator < twice then quotient + 1
  else if quotient % 2 = 0 then quotient else quotient + 1

/-- The leading `count` digits of a value and the power of ten of the first of them. -/
def leadingDigits (count : Nat) (mantissa : Nat) (exponent : Int) : Nat × Int :=
  let value := Ratio.ofBinary mantissa exponent
  let point := value.decimalPoint (mantissa.log2 + exponent)
  let scaled := value.scaleDown (point - count)
  let rounded := roundHalfEven scaled.numerator scaled.denominator
  if rounded = Nat.pow 10 count then (Nat.pow 10 (count - 1), point) else (rounded, point - 1)

def scientific (count : Nat) (mantissa : Nat) (exponent : Int) : List Char :=
  let (value, power) := leadingDigits count mantissa exponent
  match digits value with
  | [] => []
  | first :: rest => first :: '.' :: rest ++ 'e' :: (toString power).toList

namespace Binary

def significant (count : Nat) : Binary → String
  | nan => "NaN"
  | infinite negative => String.ofList (signed negative "inf".toList)
  | finite _ 0 _ => "0"
  | finite negative mantissa exponent =>
      String.ofList (signed negative (scientific count mantissa exponent))

end Binary

def significantText (number : Float) : String :=
  (Binary.ofFloat number).significant 12

end SpatialWorkload.Decimal

import SpatialWorkload.Decimal.Binary

/-!
# Shortest decimal text

The text of a double is the shortest decimal that reads back as the same double, always
written positionally and without a needless point: `39.9`, `1`, `-0`, `0.0000001`.
Among equally short candidates the nearer one is taken, and the larger one on a tie.
-/

namespace SpatialWorkload.Decimal

/-- The rationals that round to one double: from `low` to `high` over one denominator. -/
structure Neighbourhood where
  low : Nat
  value : Nat
  high : Nat
  denominator : Nat
  closed : Bool
  deriving Repr

namespace Neighbourhood

/--
The interval around `mantissa * 2 ^ exponent`, in quarters of a unit of the last place.
Below a power of two the neighbours are half as far apart.  The ends round to the
even mantissa.
-/
def ofBinary (mantissa : Nat) (exponent : Int) : Neighbourhood :=
  let unit := Nat.pow 2 exponent.toNat
  let below := if mantissa = Binary.hiddenBit ∧ exponent ≠ -1074 then unit else 2 * unit
  { low := 4 * mantissa * unit - below
    value := 4 * mantissa * unit
    high := 4 * mantissa * unit + 2 * unit
    denominator := 4 * Nat.pow 2 (-exponent).toNat
    closed := mantissa % 2 == 0 }

def holds (interval : Neighbourhood) (power : Int) (candidate : Nat) : Bool :=
  let scaled := candidate * interval.denominator * Nat.pow 10 power.toNat
  let low := interval.low * Nat.pow 10 (-power).toNat
  let high := interval.high * Nat.pow 10 (-power).toNat
  if interval.closed then decide (low ≤ scaled ∧ scaled ≤ high)
  else decide (low < scaled ∧ scaled < high)

/-- The two neighbours on the grid of `10 ^ power`, the nearer first and the larger on a tie. -/
def neighbours (interval : Neighbourhood) (power : Int) : List Nat :=
  let scaled := Ratio.scaleDown ⟨interval.value, interval.denominator⟩ power
  let below := scaled.floor
  let rest := scaled.numerator % scaled.denominator
  if 2 * rest < scaled.denominator then [below, below + 1] else [below + 1, below]

/-- Searches the grids of `count`, `count + 1`, … digits; the first grid with a hit wins. -/
def search (interval : Neighbourhood) (point : Int) : Nat → Nat → Nat × Int
  | 0, count =>
      let power := point - count
      ((interval.neighbours power).headD 0, power)
  | fuel + 1, count =>
      let power := point - count
      match (interval.neighbours power).find? (interval.holds power) with
      | some candidate => (candidate, power)
      | none => search interval point fuel (count + 1)

end Neighbourhood

def shortest (mantissa : Nat) (exponent : Int) : Nat × Int :=
  let point := (Ratio.ofBinary mantissa exponent).decimalPoint (mantissa.log2 + exponent)
  (Neighbourhood.ofBinary mantissa exponent).search point 16 1

def positional (value : Nat) (power : Int) : List Char :=
  let text := digits value
  if 0 ≤ power then text ++ List.replicate power.toNat '0'
  else
    let places := (-power).toNat
    let padded := List.replicate (places + 1 - text.length) '0' ++ text
    let whole := padded.take (padded.length - places)
    let fraction := dropTrailingZeros (padded.drop (padded.length - places))
    if fraction.isEmpty then whole else whole ++ '.' :: fraction

def signed (negative : Bool) (text : List Char) : List Char :=
  if negative then '-' :: text else text

namespace Binary

def text : Binary → String
  | nan => "NaN"
  | infinite negative => String.ofList (signed negative "inf".toList)
  | finite negative 0 _ => String.ofList (signed negative ['0'])
  | finite negative mantissa exponent =>
      let (value, power) := shortest mantissa exponent
      String.ofList (signed negative (positional value power))

end Binary

/-- The shortest text that reads back as the same double. -/
def text (number : Float) : String :=
  (Binary.ofFloat number).text

end SpatialWorkload.Decimal

import SpatialWorkload.Proofs.Scalar.Rounding

/-!
# The order of all doubles

Doubles that are numbers are compared as whole numbers, their places with a sign.  What is no
number compares with nothing.
-/

namespace SpatialWorkload.Double

open Float.Model (UnpackedFloat Format)
open Float.Model.UnpackedFloat

/-- A double that compares with itself. -/
def IsNumber (number : Float) : Prop :=
  number.toModel.unpack ≠ .notANumber

def signedPlace : UnpackedFloat → Int
  | .notANumber => 0
  | .zero _ => 0
  | .infinity sign => sign.apply infinityPlace
  | .finite sign mantissa exponent _ => sign.apply (place mantissa exponent)

/-- What a double unpacks to is bounded below infinity, where it is finite. -/
theorem exponent_le_of_unpack {bits : BitVec Format.binary64.numBits} {sign : Sign}
    {mantissa : Nat} {exponent : Int} {positive : 0 < mantissa}
    (unpacked : unpack .binary64 bits = .finite sign mantissa exponent positive) :
    exponent ≤ 971 := by
  have size : (unpackExponent bits).toNat < 2048 := (unpackExponent bits).isLt
  unfold unpack at unpacked
  dsimp only at unpacked
  split at unpacked
  · split at unpacked <;> cases unpacked
  · rename_i notSpecial
    have notLast : (unpackExponent bits).toNat ≠ 2047 := by
      intro last
      exact notSpecial (BitVec.eq_of_toNat_eq (last.trans (by decide)))
    split at unpacked
    · rename_i subnormal
      split at unpacked
      · cases unpacked
      · injection unpacked with _ _ exponents
        rw [← exponents, subnormal]
        decide
    · injection unpacked with _ _ exponents
      change ((unpackExponent bits).toNat : Int) - (1023 + 52) = exponent at exponents
      omega

theorem place_lt_of_finite {number : Float} {sign : Sign} {mantissa : Nat} {exponent : Int}
    {positive : 0 < mantissa}
    (finite : number.toModel.unpack = .finite sign mantissa exponent positive) :
    place mantissa exponent < infinityPlace := by
  have most := exponent_le_of_unpack finite
  have high := (isCanonical_of_unpack finite).mantissa_lt
  have steps : (exponent - leastExponent).toNat ≤ 2045 := by
    change (exponent - -1074).toNat ≤ 2045
    omega
  have products := Nat.mul_le_mul_right leastNormal steps
  rw [place, infinityPlace]
  omega

/-- Of canonical numbers the one with the larger exponent is larger. -/
theorem IsCanonical.place_lt {firstMantissa secondMantissa : Nat}
    {firstExponent secondExponent : Int} (first : IsCanonical firstMantissa firstExponent)
    (second : IsCanonical secondMantissa secondExponent) (less : firstExponent < secondExponent) :
    place firstMantissa firstExponent < place secondMantissa secondExponent := by
  have least := first.least_le
  have high := first.mantissa_lt
  have normal := second.normal (by omega)
  have steps : (firstExponent - leastExponent).toNat + 1 ≤
      (secondExponent - leastExponent).toNat := by
    omega
  have products := Nat.mul_le_mul_right leastNormal steps
  rw [Nat.add_mul] at products
  rw [place, place]
  omega

/-- Canonical numbers are compared as their places. -/
theorem compare_canonical {firstMantissa secondMantissa : Nat} {firstExponent secondExponent : Int}
    (first : IsCanonical firstMantissa firstExponent)
    (second : IsCanonical secondMantissa secondExponent) :
    (compare firstExponent secondExponent).then (compare firstMantissa secondMantissa) =
      compare (place firstMantissa firstExponent : Int) (place secondMantissa secondExponent) := by
  rcases Int.lt_trichotomy firstExponent secondExponent with less | equal | greater
  · have places := Int.ofNat_lt.mpr (first.place_lt second less)
    rw [Int.compare_eq_lt.mpr less, Int.compare_eq_lt.mpr places]
    rfl
  · subst equal
    rw [Std.compare_self, place, place]
    change compare firstMantissa secondMantissa = _
    rcases Nat.lt_trichotomy firstMantissa secondMantissa with less | same | greater
    · rw [Nat.compare_eq_lt.mpr less, Int.compare_eq_lt.mpr (by omega)]
    · rw [same, Std.compare_self, Std.compare_self]
    · rw [Nat.compare_eq_gt.mpr greater, Int.compare_eq_gt.mpr (by omega)]
  · have places := Int.ofNat_lt.mpr (second.place_lt first greater)
    rw [Int.compare_eq_gt.mpr greater, Int.compare_eq_gt.mpr places]
    rfl

theorem compare_neg (first second : Int) :
    compare (-first) (-second) = (compare first second).swap := by
  rcases Int.lt_trichotomy first second with less | equal | greater
  · rw [Int.compare_eq_lt.mpr less, Int.compare_eq_gt.mpr (Int.neg_lt_neg less)]
    rfl
  · rw [equal, Std.compare_self, Std.compare_self]
    rfl
  · rw [Int.compare_eq_gt.mpr greater, Int.compare_eq_lt.mpr (Int.neg_lt_neg greater)]
    rfl

theorem some_lt {first second : Int} (less : first < second) :
    some Ordering.lt = some (compare first second) :=
  congrArg some (Int.compare_eq_lt.mpr less).symm

theorem some_gt {first second : Int} (greater : second < first) :
    some Ordering.gt = some (compare first second) :=
  congrArg some (Int.compare_eq_gt.mpr greater).symm

/-- What is finite stands between the two infinities. -/
theorem apply_place_of_finite {number : Float} {sign : Sign} {mantissa : Nat} {exponent : Int}
    {positive : 0 < mantissa}
    (finite : number.toModel.unpack = .finite sign mantissa exponent positive) :
    -infinityPlace < sign.apply (place mantissa exponent) ∧
      sign.apply (place mantissa exponent) < infinityPlace := by
  have above := place_pos positive exponent
  have below := place_lt_of_finite finite
  cases sign <;> simp only [Sign.apply] <;> omega

/-- Doubles that are numbers are compared as their signed places. -/
theorem compare_signedPlace {first second : Float} (firstNumber : IsNumber first)
    (secondNumber : IsNumber second) :
    first.toModel.unpack.compare second.toModel.unpack =
      some (compare (signedPlace first.toModel.unpack) (signedPlace second.toModel.unpack)) := by
  have above {mantissa : Nat} (positive : 0 < mantissa) (exponent : Int) :
      (0 : Int) < place mantissa exponent :=
    Int.natCast_pos.mpr (place_pos positive exponent)
  cases firstUnpacked : first.toModel.unpack with
  | notANumber => exact absurd firstUnpacked firstNumber
  | zero =>
      cases secondUnpacked : second.toModel.unpack with
      | notANumber => exact absurd secondUnpacked secondNumber
      | zero => rfl
      | infinity sign => cases sign <;> rfl
      | finite sign mantissa exponent positive =>
          cases sign with
          | negative => exact some_gt (Int.neg_neg_of_pos (above positive exponent))
          | positive => exact some_lt (above positive exponent)
  | infinity firstSign =>
      cases secondUnpacked : second.toModel.unpack with
      | notANumber => exact absurd secondUnpacked secondNumber
      | zero => cases firstSign <;> rfl
      | infinity secondSign => cases firstSign <;> cases secondSign <;> rfl
      | finite =>
          obtain ⟨low, high⟩ := apply_place_of_finite secondUnpacked
          cases firstSign with
          | negative => exact some_lt low
          | positive => exact some_gt high
  | finite firstSign firstMantissa firstExponent firstPositive =>
      have firstAbove := above firstPositive firstExponent
      cases secondUnpacked : second.toModel.unpack with
      | notANumber => exact absurd secondUnpacked secondNumber
      | zero =>
          cases firstSign with
          | negative => exact some_lt (Int.neg_neg_of_pos firstAbove)
          | positive => exact some_gt firstAbove
      | infinity secondSign =>
          obtain ⟨low, high⟩ := apply_place_of_finite firstUnpacked
          cases secondSign with
          | negative => exact some_gt low
          | positive => exact some_lt high
      | finite secondSign secondMantissa secondExponent secondPositive =>
          have secondAbove := above secondPositive secondExponent
          have magnitudes := compare_canonical (isCanonical_of_unpack firstUnpacked)
            (isCanonical_of_unpack secondUnpacked)
          cases firstSign with
          | negative =>
              cases secondSign with
              | negative =>
                  rw [signedPlace, signedPlace, Sign.apply, Sign.apply, compare_neg,
                    ← magnitudes]
                  rfl
              | positive => exact some_lt ((Int.neg_neg_of_pos firstAbove).trans secondAbove)
          | positive =>
              cases secondSign with
              | negative => exact some_gt ((Int.neg_neg_of_pos secondAbove).trans firstAbove)
              | positive => exact congrArg some magnitudes

theorem isNumber_of_compare {first second : Float} {order : Ordering}
    (compared : first.toModel.unpack.compare second.toModel.unpack = some order) :
    IsNumber first ∧ IsNumber second := by
  constructor
  · intro nothing
    rw [nothing] at compared
    cases compared
  · intro nothing
    rw [nothing] at compared
    cases unpacked : first.toModel.unpack with
    | infinity sign | finite sign =>
        rw [unpacked] at compared
        cases sign <;> cases compared
    | zero | notANumber =>
        rw [unpacked] at compared
        cases compared

theorem lt_iff_compare (first second : Float) :
    first < second ↔ first.toModel.unpack.compare second.toModel.unpack = some .lt :=
  decide_eq_true_iff.trans beq_iff_eq

theorem lt_iff_signedPlace (first second : Float) :
    first < second ↔ IsNumber first ∧ IsNumber second ∧
      signedPlace first.toModel.unpack < signedPlace second.toModel.unpack := by
  rw [lt_iff_compare]
  constructor
  · intro compared
    obtain ⟨firstNumber, secondNumber⟩ := isNumber_of_compare compared
    rw [compare_signedPlace firstNumber secondNumber] at compared
    exact ⟨firstNumber, secondNumber, Int.compare_eq_lt.mp (Option.some.inj compared)⟩
  · rintro ⟨firstNumber, secondNumber, less⟩
    rw [compare_signedPlace firstNumber secondNumber, Int.compare_eq_lt.mpr less]

theorem le_iff_signedPlace (first second : Float) :
    first ≤ second ↔ IsNumber first ∧ IsNumber second ∧
      signedPlace first.toModel.unpack ≤ signedPlace second.toModel.unpack := by
  rw [le_iff_compare, Option.any_eq_true]
  constructor
  · rintro ⟨order, compared, notGreater⟩
    obtain ⟨firstNumber, secondNumber⟩ := isNumber_of_compare compared
    rw [compare_signedPlace firstNumber secondNumber] at compared
    rw [← Option.some.inj compared, Int.isLE_compare] at notGreater
    exact ⟨firstNumber, secondNumber, notGreater⟩
  · rintro ⟨firstNumber, secondNumber, le⟩
    exact ⟨_, compare_signedPlace firstNumber secondNumber, Int.isLE_compare.mpr le⟩

theorem isNumber_of_isFinite {number : Float} (finite : number.isFinite = true) :
    IsNumber number := by
  intro nothing
  change number.toModel.unpack.isFinite = true at finite
  rw [nothing] at finite
  cases finite

theorem le_self_iff (number : Float) : number ≤ number ↔ IsNumber number := by
  rw [le_iff_signedPlace]
  exact ⟨fun both => both.1, fun isNumber => ⟨isNumber, isNumber, Int.le_refl _⟩⟩

theorem le_of_lt {first second : Float} (less : first < second) : first ≤ second := by
  rw [lt_iff_signedPlace] at less
  rw [le_iff_signedPlace]
  exact ⟨less.1, less.2.1, less.2.2.le⟩

theorem not_lt_of_le {first second : Float} (le : first ≤ second) : ¬second < first := by
  rw [le_iff_signedPlace] at le
  rw [lt_iff_signedPlace]
  exact fun less => Int.not_lt.mpr le.2.2 less.2.2

theorem le_trans {first second third : Float} (lower : first ≤ second) (upper : second ≤ third) :
    first ≤ third := by
  rw [le_iff_signedPlace] at lower upper ⊢
  exact ⟨lower.1, upper.2.1, lower.2.2.trans upper.2.2⟩

theorem lt_double (first second : Float) : Scalar.lt first second = true ↔ first < second :=
  decide_eq_true_iff

theorem isNumber_double (number : Float) : Scalar.isNumber number = true ↔ IsNumber number :=
  decide_eq_true_iff.trans (le_self_iff number)

theorem min_of_not_lt {first second : Float} (isNumber : IsNumber first)
    (notLess : ¬second < first) : Scalar.min first second = first := by
  rw [Scalar.min, if_neg (mt (lt_double second first).mp notLess),
    if_pos ((isNumber_double first).mpr isNumber)]

theorem max_of_not_lt {first second : Float} (isNumber : IsNumber first)
    (notLess : ¬first < second) : Scalar.max first second = first := by
  rw [Scalar.max, if_neg (mt (lt_double first second).mp notLess),
    if_pos ((isNumber_double first).mpr isNumber)]

theorem min_eq_left {first second : Float} (le : first ≤ second) :
    Scalar.min first second = first :=
  min_of_not_lt ((le_iff_signedPlace _ _).mp le).1 (not_lt_of_le le)

theorem max_eq_left {first second : Float} (le : second ≤ first) :
    Scalar.max first second = first :=
  max_of_not_lt ((le_iff_signedPlace _ _).mp le).2.1 (not_lt_of_le le)

theorem min_le_of_left_le {first second bound : Float} (le : first ≤ bound) :
    Scalar.min first second ≤ bound := by
  by_cases less : second < first
  · have lower : Scalar.min first second = second := if_pos ((lt_double _ _).mpr less)
    rw [lower]
    exact le_trans (le_of_lt less) le
  · rw [min_of_not_lt ((le_iff_signedPlace _ _).mp le).1 less]
    exact le

theorem le_max_of_le_left {first second bound : Float} (le : bound ≤ first) :
    bound ≤ Scalar.max first second := by
  by_cases less : first < second
  · have upper : Scalar.max first second = second := if_pos ((lt_double _ _).mpr less)
    rw [upper]
    exact le_trans le (le_of_lt less)
  · rw [max_of_not_lt ((le_iff_signedPlace _ _).mp le).2.1 less]
    exact le

end SpatialWorkload.Double

import SpatialWorkload.Proofs.Scalar.Signed

/-!
# Order of sums and products

Doubles that are not negative are ordered as their places, without a sign.  Sums and products
of them are not negative either, and of larger doubles they are not smaller.
-/

namespace SpatialWorkload.Double

open Float.Model (UnpackedFloat Format)
open Float.Model.UnpackedFloat

def NotNegative (number : Float) : Prop :=
  IsMagnitude number.toModel.unpack

def placeAmong (number : Float) : Nat :=
  placeOf number.toModel.unpack

theorem signedPlace_of_isMagnitude {unpacked : UnpackedFloat} (magnitude : IsMagnitude unpacked) :
    signedPlace unpacked = placeOf unpacked := by
  cases magnitude <;> rfl

theorem NotNegative.isNumber {number : Float} (sign : NotNegative number) : IsNumber number := by
  intro nothing
  rw [NotNegative, nothing] at sign
  cases sign

theorem notNegative_iff (number : Float) : NotNegative number ↔ 0 ≤ number := by
  have zero : IsNumber 0 := nofun
  have origin : signedPlace (0 : Float).toModel.unpack = 0 := rfl
  rw [le_iff_signedPlace, origin]
  constructor
  · intro sign
    refine ⟨zero, sign.isNumber, ?_⟩
    rw [signedPlace_of_isMagnitude sign]
    exact Int.natCast_nonneg _
  · rintro ⟨-, isNumber, above⟩
    rw [NotNegative]
    cases unpacked : number.toModel.unpack with
    | notANumber => exact absurd unpacked isNumber
    | zero sign => exact .zero sign
    | infinity sign =>
        rw [unpacked] at above
        cases sign with
        | negative => exact absurd above (by decide)
        | positive => exact .infinity
    | finite sign mantissa exponent positive =>
        rw [unpacked] at above
        cases sign with
        | negative =>
            have behind := place_pos positive exponent
            change 0 ≤ -(place mantissa exponent : Int) at above
            omega
        | positive => exact .finite positive (isCanonical_of_unpack unpacked)

/-- Without its sign a number stands as far from zero as before. -/
theorem abs_spec {number : Float} (isNumber : IsNumber number) :
    NotNegative number.abs ∧
      (placeAmong number.abs : Int) = |signedPlace number.toModel.unpack| := by
  have unsigned : IsMagnitude number.toModel.unpack.abs ∧
      placeOf number.toModel.unpack.abs ≤ infinityPlace ∧
      (placeOf number.toModel.unpack.abs : Int) = |signedPlace number.toModel.unpack| := by
    cases unpacked : number.toModel.unpack with
    | notANumber => exact absurd unpacked isNumber
    | zero sign => exact ⟨.zero .positive, Nat.zero_le _, rfl⟩
    | infinity sign => cases sign <;> exact ⟨.infinity, Nat.le_refl _, rfl⟩
    | finite sign mantissa exponent positive =>
        refine ⟨.finite positive (isCanonical_of_unpack unpacked),
          Nat.le_of_lt (place_lt_of_finite unpacked), ?_⟩
        cases sign with
        | negative => exact ((abs_neg _).trans (Nat.abs_cast _)).symm
        | positive => exact (Nat.abs_cast _).symm
  obtain ⟨magnitude, below, placed⟩ := unsigned
  obtain ⟨sign, same⟩ := unpack_pack_spec magnitude
  rw [Nat.min_eq_left below] at same
  exact ⟨sign, (congrArg Int.ofNat same).trans placed⟩

theorem isNaN_iff (number : Float) : number.isNaN = true ↔ ¬IsNumber number := by
  change number.toModel.unpack.isNaN = true ↔ ¬(number.toModel.unpack ≠ .notANumber)
  cases number.toModel.unpack with
  | notANumber => simp [UnpackedFloat.isNaN]
  | zero | infinity | finite => simp [UnpackedFloat.isNaN]

/-- What is no number is none without its sign either. -/
theorem isNumber_abs_iff (number : Float) : IsNumber number.abs ↔ IsNumber number := by
  constructor
  · intro unsigned nothing
    apply unsigned
    change unpack .binary64 (pack .binary64 number.toModel.unpack.abs) = .notANumber
    rw [nothing]
    rfl
  · intro isNumber
    exact (abs_spec isNumber).1.isNumber

/-- What is not above a bound is at most the bound, or no number. -/
theorem not_lt_iff {bound number : Float} (isNumber : IsNumber bound) :
    ¬bound < number ↔ ¬IsNumber number ∨ number ≤ bound := by
  rw [lt_iff_signedPlace, le_iff_signedPlace]
  by_cases other : IsNumber number <;> simp [isNumber, other]

/-- A finite number that is not above a bound without its sign lies between both bounds. -/
theorem mem_of_not_lt_abs {number bound : Float} (finite : number.isFinite = true)
    (notAbove : ¬bound < number.abs) (upper : NotNegative bound) (lower : IsNumber (-bound))
    (opposite : signedPlace (-bound).toModel.unpack = -signedPlace bound.toModel.unpack) :
    -bound ≤ number ∧ number ≤ bound := by
  have isNumber := isNumber_of_isFinite finite
  obtain ⟨sign, placed⟩ := abs_spec isNumber
  have within : |signedPlace number.toModel.unpack| ≤ signedPlace bound.toModel.unpack := by
    rw [lt_iff_signedPlace, signedPlace_of_isMagnitude sign] at notAbove
    exact placed ▸ Int.not_lt.mp fun above => notAbove ⟨upper.isNumber, sign.isNumber, above⟩
  obtain ⟨low, high⟩ := abs_le.mp within
  rw [le_iff_signedPlace, le_iff_signedPlace, opposite]
  exact ⟨⟨lower, isNumber, low⟩, isNumber, upper.isNumber, high⟩

/-- A finite double that is not below zero is not negative. -/
theorem zero_le_of_not_lt {number : Float} (finite : number.isFinite = true)
    (notBelow : ¬number < 0) : 0 ≤ number := by
  have zero : IsNumber 0 := nofun
  have isNumber := isNumber_of_isFinite finite
  rw [lt_iff_signedPlace] at notBelow
  rw [le_iff_signedPlace]
  exact ⟨zero, isNumber, Int.not_lt.mp fun below => notBelow ⟨isNumber, zero, below⟩⟩

/-- Among doubles that are not negative the order is that of their places. -/
theorem le_iff_placeAmong {first second : Float} (firstSign : NotNegative first)
    (secondSign : NotNegative second) :
    first ≤ second ↔ placeAmong first ≤ placeAmong second := by
  rw [le_iff_signedPlace, signedPlace_of_isMagnitude firstSign,
    signedPlace_of_isMagnitude secondSign, Int.ofNat_le]
  exact ⟨fun all => all.2.2, fun le => ⟨firstSign.isNumber, secondSign.isNumber, le⟩⟩

/-- What is above a number that is not negative is not negative either. -/
theorem NotNegative.of_le {first second : Float} (sign : NotNegative first)
    (le : first ≤ second) : NotNegative second :=
  (notNegative_iff second).mpr (le_trans ((notNegative_iff first).mp sign) le)

theorem pos_iff (number : Float) : 0 < number ↔ NotNegative number ∧ 0 < placeAmong number := by
  have origin : signedPlace (0 : Float).toModel.unpack = 0 := rfl
  constructor
  · intro above
    have sign := (notNegative_iff number).mpr (le_of_lt above)
    rw [lt_iff_signedPlace, origin, signedPlace_of_isMagnitude sign] at above
    exact ⟨sign, Int.natCast_pos.mp above.2.2⟩
  · rintro ⟨sign, above⟩
    rw [lt_iff_signedPlace, origin, signedPlace_of_isMagnitude sign]
    exact ⟨nofun, sign.isNumber, Int.natCast_pos.mpr above⟩

theorem unpack_mul (first second : Float) :
    (first * second).toModel.unpack =
      unpack .binary64 (pack .binary64
        (UnpackedFloat.mul .binary64 first.toModel.unpack second.toModel.unpack)) :=
  rfl

theorem mul_positive {firstMantissa secondMantissa : Nat} {firstExponent secondExponent : Int}
    (firstPositive : 0 < firstMantissa) (secondPositive : 0 < secondMantissa) :
    UnpackedFloat.mul .binary64 (.finite .positive firstMantissa firstExponent firstPositive)
        (.finite .positive secondMantissa secondExponent secondPositive) =
      roundWithAccuracy .binary64 .positive (firstMantissa * secondMantissa)
        (firstExponent + secondExponent) .exact :=
  rfl

theorem unpack_add (first second : Float) :
    (first + second).toModel.unpack =
      unpack .binary64 (pack .binary64
        (UnpackedFloat.add .binary64 first.toModel.unpack second.toModel.unpack)) :=
  rfl

/-- Rounded results are compared before they are packed. -/
theorem le_of_placeOf_le {first second : Float} {firstResult secondResult : UnpackedFloat}
    (firstPacked : first.toModel.unpack = unpack .binary64 (pack .binary64 firstResult))
    (secondPacked : second.toModel.unpack = unpack .binary64 (pack .binary64 secondResult))
    (firstSign : IsMagnitude firstResult) (secondSign : IsMagnitude secondResult)
    (le : min (placeOf firstResult) infinityPlace ≤ placeOf secondResult) : first ≤ second := by
  obtain ⟨firstMagnitude, firstPlace⟩ := unpack_pack_spec firstSign
  obtain ⟨secondMagnitude, secondPlace⟩ := unpack_pack_spec secondSign
  rw [← firstPacked] at firstMagnitude firstPlace
  rw [← secondPacked] at secondMagnitude secondPlace
  rw [le_iff_placeAmong firstMagnitude secondMagnitude, placeAmong, placeAmong, firstPlace,
    secondPlace]
  omega

theorem NotNegative.placeAmong_lt {number : Float} (sign : NotNegative number)
    (bounded : number.toModel.unpack ≠ .infinity .positive) :
    placeAmong number < infinityPlace := by
  unfold NotNegative at sign
  rw [placeAmong]
  generalize unpacked : number.toModel.unpack = value at sign bounded ⊢
  cases sign with
  | zero sign => exact (by decide : 0 < infinityPlace)
  | infinity => exact absurd rfl bounded
  | finite positive canonical => exact place_lt_of_finite unpacked

/-- Products with one factor are rounded in the order of the other factor. -/
theorem mul_finite_le {firstMantissa secondMantissa mantissa : Nat}
    {firstExponent secondExponent exponent : Int} (firstPositive : 0 < firstMantissa)
    (secondPositive : 0 < secondMantissa) (positive : 0 < mantissa)
    (first : IsCanonical firstMantissa firstExponent)
    (second : IsCanonical secondMantissa secondExponent) (factor : IsCanonical mantissa exponent)
    (le : place firstMantissa firstExponent ≤ place secondMantissa secondExponent) :
    let product := UnpackedFloat.mul .binary64
      (.finite .positive firstMantissa firstExponent firstPositive)
      (.finite .positive mantissa exponent positive)
    let larger := UnpackedFloat.mul .binary64
      (.finite .positive secondMantissa secondExponent secondPositive)
      (.finite .positive mantissa exponent positive)
    IsMagnitude product ∧ IsMagnitude larger ∧ placeOf product ≤ placeOf larger := by
  intro product larger
  obtain ⟨exponents, mantissas⟩ := first.le_shift second le
  have firstBelow : firstExponent + exponent ≤ secondExponent + exponent := by omega
  have firstProduct := Nat.mul_pos firstPositive positive
  have secondProduct := Nat.mul_pos secondPositive positive
  obtain ⟨firstSign, firstPlace⟩ := roundWithAccuracy_spec firstProduct
    (first.mul_above factor firstPositive positive)
  obtain ⟨secondSign, secondPlace⟩ := roundWithAccuracy_low secondProduct
    (second.mul_above factor secondPositive positive) firstBelow
  refine ⟨firstSign, secondSign, ?_⟩
  have shift : (secondExponent + exponent - (firstExponent + exponent)).toNat =
      (secondExponent - firstExponent).toNat := by
    omega
  have products : firstMantissa * mantissa ≤ (secondMantissa * mantissa) <<<
      (secondExponent + exponent - (firstExponent + exponent)).toNat := by
    rw [shift, Nat.shiftLeft_eq, Nat.mul_right_comm, ← Nat.shiftLeft_eq]
    exact Nat.mul_le_mul_right mantissa mantissas
  calc placeOf product
      = roundedPlace (firstMantissa * mantissa) (firstExponent + exponent) := firstPlace
    _ ≤ roundedPlace ((secondMantissa * mantissa) <<<
          (secondExponent + exponent - (firstExponent + exponent)).toNat)
          (firstExponent + exponent) :=
        roundedPlace_mono firstProduct products (first.mul_above factor firstPositive positive)
    _ = placeOf larger := secondPlace.symm

/-- Products with one factor are in the order of the other, where no zero meets infinity. -/
theorem mul_placeOf_le {first second factor : UnpackedFloat} (firstSign : IsMagnitude first)
    (secondSign : IsMagnitude second) (factorSign : IsMagnitude factor)
    (le : placeOf first ≤ placeOf second) (firstFinite : first ≠ .infinity .positive)
    (secondFinite : second ≠ .infinity .positive)
    (defined : 0 < placeOf first ∨ factor ≠ .infinity .positive) :
    IsMagnitude (UnpackedFloat.mul .binary64 first factor) ∧
      IsMagnitude (UnpackedFloat.mul .binary64 second factor) ∧
      placeOf (UnpackedFloat.mul .binary64 first factor) ≤
        placeOf (UnpackedFloat.mul .binary64 second factor) := by
  cases firstSign with
  | infinity => exact absurd rfl firstFinite
  | zero sign =>
      cases secondSign with
      | infinity => exact absurd rfl secondFinite
      | zero secondZero =>
          cases factorSign with
          | infinity => exact absurd rfl (defined.resolve_left (Nat.lt_irrefl 0))
          | zero factorZero => exact ⟨.zero _, .zero _, Nat.le_refl 0⟩
          | finite positive canonical => exact ⟨.zero _, .zero _, Nat.le_refl 0⟩
      | finite secondPositive secondCanonical =>
          cases factorSign with
          | infinity => exact absurd rfl (defined.resolve_left (Nat.lt_irrefl 0))
          | zero factorZero => exact ⟨.zero _, .zero _, Nat.le_refl 0⟩
          | finite positive canonical =>
              have product := secondCanonical.mul_above canonical secondPositive positive
              exact ⟨.zero _,
                (roundWithAccuracy_spec (Nat.mul_pos secondPositive positive) product).1,
                Nat.zero_le _⟩
  | finite firstPositive firstCanonical =>
      cases secondSign with
      | infinity => exact absurd rfl secondFinite
      | zero sign => exact absurd le (Nat.not_le.mpr (place_pos firstPositive _))
      | finite secondPositive secondCanonical =>
          cases factorSign with
          | infinity => exact ⟨.infinity, .infinity, Nat.le_refl _⟩
          | zero factorZero => exact ⟨.zero _, .zero _, Nat.le_refl 0⟩
          | finite positive canonical =>
              exact mul_finite_le firstPositive secondPositive positive firstCanonical
                secondCanonical canonical le

theorem ne_infinity_of_isFinite {number : Float} (finite : number.isFinite = true) :
    number.toModel.unpack ≠ .infinity .positive := by
  intro infinite
  change number.toModel.unpack.isFinite = true at finite
  rw [infinite] at finite
  cases finite

theorem pos_of_le {first second : Float} (positive : 0 < first)
    (le : first ≤ second) : 0 < second := by
  obtain ⟨sign, place⟩ := (pos_iff first).mp positive
  refine (pos_iff second).mpr ⟨sign.of_le le, ?_⟩
  exact Nat.lt_of_lt_of_le place ((le_iff_placeAmong sign (sign.of_le le)).mp le)

theorem NotNegative.isFinite_of_le {first second : Float} (sign : NotNegative first)
    (le : first ≤ second) (finite : second.isFinite = true) : first.isFinite = true := by
  have secondSign := sign.of_le le
  have places := (le_iff_placeAmong sign secondSign).mp le
  have bounded := secondSign.placeAmong_lt (ne_infinity_of_isFinite finite)
  change first.toModel.unpack.isFinite = true
  unfold NotNegative at sign
  unfold placeAmong at places bounded
  generalize first.toModel.unpack = unpacked at sign places ⊢
  cases sign with
  | zero sign => rfl
  | finite positive canonical => rfl
  | infinity => exact absurd places (Nat.not_le.mpr bounded)

/-- A larger factor makes no smaller product, where no zero meets infinity. -/
theorem mul_le_mul_right {first second factor : Float} (sign : 0 ≤ first) (le : first ≤ second)
    (finite : second.isFinite = true) (factorSign : 0 ≤ factor)
    (defined : 0 < first ∨ factor.isFinite = true) : first * factor ≤ second * factor := by
  have firstSign := (notNegative_iff first).mpr sign
  have secondSign := firstSign.of_le le
  have factorMagnitude := (notNegative_iff factor).mpr factorSign
  have places := (le_iff_placeAmong firstSign secondSign).mp le
  have secondFinite := ne_infinity_of_isFinite finite
  have firstFinite := ne_infinity_of_isFinite (firstSign.isFinite_of_le le finite)
  have apart : 0 < placeAmong first ∨ factor.toModel.unpack ≠ .infinity .positive :=
    defined.imp (fun positive => ((pos_iff first).mp positive).2) ne_infinity_of_isFinite
  obtain ⟨firstProduct, secondProduct, ordered⟩ :=
    mul_placeOf_le firstSign secondSign factorMagnitude places firstFinite secondFinite apart
  exact le_of_placeOf_le (unpack_mul first factor) (unpack_mul second factor) firstProduct
    secondProduct (Nat.le_trans (Nat.min_le_left _ _) ordered)

/-- The sum of two finite numbers, with both written to one low exponent. -/
theorem add_finite {firstMantissa secondMantissa : Nat} {firstExponent secondExponent low : Int}
    (firstPositive : 0 < firstMantissa) (secondPositive : 0 < secondMantissa)
    (firstBelow : low ≤ firstExponent) (secondBelow : low ≤ secondExponent)
    (least : low ≤ leastExponent) :
    let sum := UnpackedFloat.add .binary64
      (.finite .positive firstMantissa firstExponent firstPositive)
      (.finite .positive secondMantissa secondExponent secondPositive)
    IsMagnitude sum ∧ placeOf sum = roundedPlace
      (firstMantissa <<< (firstExponent - low).toNat +
        secondMantissa <<< (secondExponent - low).toNat) low := by
  intro sum
  generalize smaller : min firstExponent secondExponent = exponent
  have shifted (mantissa : Nat) (positive : 0 < mantissa) (count : Nat) :
      0 < mantissa <<< count := by
    rw [Nat.shiftLeft_eq]
    exact Nat.mul_pos positive (Nat.two_pow_pos count)
  have positive := Nat.add_pos_left
    (shifted firstMantissa firstPositive (firstExponent - exponent).toNat)
    (secondMantissa <<< (secondExponent - exponent).toNat)
  have rounded : sum = UnpackedFloat.round .binary64 .positive
      (firstMantissa <<< (firstExponent - exponent).toNat +
        secondMantissa <<< (secondExponent - exponent).toNat) exponent := by
    have added : sum = UnpackedFloat.normalize .binary64
        (firstMantissa <<< (firstExponent - exponent).toNat +
          secondMantissa <<< (secondExponent - exponent).toNat : Nat) exponent .positive := by
      rw [← smaller]
      rfl
    have above : compare ((firstMantissa <<< (firstExponent - exponent).toNat +
        secondMantissa <<< (secondExponent - exponent).toNat : Nat) : Int) 0 = .gt :=
      Int.compare_eq_gt.mpr (Int.natCast_pos.mpr positive)
    rw [added]
    simp only [UnpackedFloat.normalize, above, Int.toNat_natCast]
  have firstSplit : (firstExponent - low).toNat =
      (firstExponent - exponent).toNat + (exponent - low).toNat := by
    omega
  have secondSplit : (secondExponent - low).toNat =
      (secondExponent - exponent).toNat + (exponent - low).toNat := by
    omega
  obtain ⟨sign, placed⟩ := round_low positive (by omega : low ≤ exponent) least
  rw [rounded]
  refine ⟨sign, placed.trans ?_⟩
  rw [firstSplit, secondSplit, Nat.shiftLeft_add, Nat.shiftLeft_add,
    Nat.shiftLeft_eq _ (exponent - low).toNat, Nat.shiftLeft_eq _ (exponent - low).toNat,
    Nat.shiftLeft_eq _ (exponent - low).toNat, Nat.add_mul]

/-- A magnitude below infinity as a mantissa at a low exponent. -/
def scaledTo (low : Int) : UnpackedFloat → Option Nat
  | .zero _ => some 0
  | .finite _ mantissa exponent _ => some (mantissa <<< (exponent - low).toNat)
  | _ => none

theorem IsMagnitude.of_scaledTo_none {unpacked : UnpackedFloat} {low : Int}
    (sign : IsMagnitude unpacked) (none : scaledTo low unpacked = none) :
    unpacked = .infinity .positive := by
  cases sign with
  | zero sign => cases none
  | finite positive canonical => cases none
  | infinity => rfl

/-- The place of a sum is that of the exact sum. -/
theorem add_spec {first second : UnpackedFloat} (firstSign : IsMagnitude first)
    (secondSign : IsMagnitude second) {low : Int} (least : low ≤ leastExponent) :
    IsMagnitude (UnpackedFloat.add .binary64 first second) ∧
      ∀ one, scaledTo low first = some one → ∀ other, scaledTo low second = some other →
        placeOf (UnpackedFloat.add .binary64 first second) = roundedPlace (one + other) low := by
  cases firstSign with
  | zero sign =>
      cases secondSign with
      | zero otherSign =>
          refine ⟨?_, ?_⟩
          · cases sign <;> cases otherSign <;> exact .zero _
          · rintro one ⟨⟩ other ⟨⟩
            rw [Nat.add_zero, roundedPlace_zero least]
            cases sign <;> cases otherSign <;> rfl
      | infinity =>
          refine ⟨.infinity, ?_⟩
          rintro one - other ⟨⟩
      | finite positive canonical =>
          refine ⟨.finite positive canonical, ?_⟩
          rintro one ⟨⟩ other ⟨⟩
          rw [Nat.zero_add]
          exact (canonical.roundedPlace positive (Int.le_trans least canonical.least_le)).symm
  | infinity =>
      constructor
      · cases secondSign <;> exact .infinity
      · rintro one ⟨⟩
  | finite firstPositive firstCanonical =>
      cases secondSign with
      | zero otherSign =>
          refine ⟨.finite firstPositive firstCanonical, ?_⟩
          rintro one ⟨⟩ other ⟨⟩
          exact (firstCanonical.roundedPlace firstPositive
            (Int.le_trans least firstCanonical.least_le)).symm
      | infinity =>
          refine ⟨.infinity, ?_⟩
          rintro one - other ⟨⟩
      | finite positive canonical =>
          obtain ⟨sign, placed⟩ := add_finite firstPositive positive
            (Int.le_trans least firstCanonical.least_le)
            (Int.le_trans least canonical.least_le) least
          refine ⟨sign, ?_⟩
          rintro one ⟨⟩ other ⟨⟩
          exact placed

theorem add_infinity {first second : UnpackedFloat} (firstSign : IsMagnitude first)
    (secondSign : IsMagnitude second)
    (infinite : first = .infinity .positive ∨ second = .infinity .positive) :
    UnpackedFloat.add .binary64 first second = .infinity .positive := by
  rcases infinite with rfl | rfl
  · cases secondSign <;> rfl
  · cases firstSign <;> rfl

/-- Magnitudes in the order of their places are in the order of their scaled mantissas. -/
theorem scaledTo_mono {first second : UnpackedFloat} (firstSign : IsMagnitude first)
    (secondSign : IsMagnitude second) (le : placeOf first ≤ placeOf second) {low : Int}
    (least : low ≤ leastExponent) {one other : Nat} (firstScaled : scaledTo low first = some one)
    (secondScaled : scaledTo low second = some other) : one ≤ other := by
  cases firstSign with
  | zero sign =>
      cases firstScaled
      exact Nat.zero_le other
  | infinity => cases firstScaled
  | finite positive canonical =>
      cases secondSign with
      | zero sign => exact absurd le (Nat.not_le.mpr (place_pos positive _))
      | infinity => cases secondScaled
      | finite otherPositive otherCanonical =>
          obtain ⟨exponents, mantissas⟩ := canonical.le_shift otherCanonical le
          have least := canonical.least_le
          cases firstScaled
          cases secondScaled
          rename_i firstMantissa firstExponent secondMantissa secondExponent
          have split : (secondExponent - low).toNat =
              (secondExponent - firstExponent).toNat + (firstExponent - low).toNat := by
            omega
          rw [split, Nat.shiftLeft_add, Nat.shiftLeft_eq _ (firstExponent - low).toNat,
            Nat.shiftLeft_eq _ (firstExponent - low).toNat]
          exact Nat.mul_le_mul_right _ mantissas

/-- A larger summand makes no smaller sum. -/
theorem add_le_add_right {first second summand : Float} (sign : 0 ≤ first)
    (le : first ≤ second) (summandSign : 0 ≤ summand) :
    first + summand ≤ second + summand := by
  have firstSign := (notNegative_iff first).mpr sign
  have secondSign := firstSign.of_le le
  have summandMagnitude := (notNegative_iff summand).mpr summandSign
  have places := (le_iff_placeAmong firstSign secondSign).mp le
  unfold NotNegative at firstSign secondSign summandMagnitude
  unfold placeAmong at places
  have least : leastExponent ≤ leastExponent := Int.le_refl leastExponent
  obtain ⟨firstSum, firstPlace⟩ := add_spec firstSign summandMagnitude least
  obtain ⟨secondSum, secondPlace⟩ := add_spec secondSign summandMagnitude least
  refine le_of_placeOf_le (unpack_add first summand) (unpack_add second summand) firstSum
    secondSum ?_
  cases secondScaled : scaledTo leastExponent second.toModel.unpack with
  | none =>
      have infinite := secondSign.of_scaledTo_none secondScaled
      rw [add_infinity secondSign summandMagnitude (Or.inl infinite)]
      exact Nat.min_le_right _ _
  | some larger =>
      cases summandScaled : scaledTo leastExponent summand.toModel.unpack with
      | none =>
          have infinite := summandMagnitude.of_scaledTo_none summandScaled
          rw [add_infinity secondSign summandMagnitude (Or.inr infinite)]
          exact Nat.min_le_right _ _
      | some added =>
          cases firstScaled : scaledTo leastExponent first.toModel.unpack with
          | none =>
              have infinite := firstSign.of_scaledTo_none firstScaled
              have finite : second.toModel.unpack ≠ .infinity .positive := by
                intro equal
                rw [equal] at secondScaled
                cases secondScaled
              have bounded : placeAmong second < infinityPlace :=
                NotNegative.placeAmong_lt secondSign finite
              rw [infinite] at places
              exact absurd places (Nat.not_le.mpr bounded)
          | some smaller =>
              have order := scaledTo_mono firstSign secondSign places least firstScaled
                secondScaled
              rw [firstPlace _ firstScaled _ summandScaled,
                secondPlace _ secondScaled _ summandScaled]
              refine Nat.le_trans (Nat.min_le_left _ _) ?_
              rcases Nat.eq_zero_or_pos (smaller + added) with nothing | positive
              · rw [nothing, roundedPlace_zero least]
                exact Nat.zero_le _
              · exact roundedPlace_mono positive (Nat.add_le_add_right order added)
                  (leastExponent_le_target _ _)

theorem NotNegative.add {first second : Float} (firstSign : NotNegative first)
    (secondSign : NotNegative second) : NotNegative (first + second) := by
  obtain ⟨sum, -⟩ := add_spec firstSign secondSign (Int.le_refl leastExponent)
  rw [NotNegative, unpack_add]
  exact (unpack_pack_spec sum).1

theorem NotNegative.mul {first second : Float} (firstSign : NotNegative first)
    (secondSign : NotNegative second) (finite : first.isFinite = true)
    (defined : 0 < first ∨ second.isFinite = true) : NotNegative (first * second) := by
  have apart : 0 < placeAmong first ∨ second.toModel.unpack ≠ .infinity .positive :=
    defined.imp (fun positive => ((pos_iff first).mp positive).2) ne_infinity_of_isFinite
  obtain ⟨product, -⟩ := mul_placeOf_le firstSign firstSign secondSign (Nat.le_refl _)
    (ne_infinity_of_isFinite finite) (ne_infinity_of_isFinite finite) apart
  rw [NotNegative, unpack_mul]
  exact (unpack_pack_spec product).1

/-- Whatever accuracy it has, a rounded positive number is not negative. -/
theorem isMagnitude_of_roundWithAccuracy (mantissa : Nat) (exponent : Int) (accuracy : Accuracy) :
    IsMagnitude (unpack .binary64
      (pack .binary64 (roundWithAccuracy .binary64 .positive mantissa exponent accuracy))) := by
  unfold roundWithAccuracy
  dsimp only
  split
  · exact (unpack_pack_spec (.zero .positive)).1
  · exact isMagnitude_of_pack_finite _ _ _

/-- A quotient by a positive number is not negative. -/
theorem NotNegative.div {first second : Float} (sign : NotNegative first) {mantissa : Nat}
    {exponent : Int} {positive : 0 < mantissa}
    (divisor : second.toModel.unpack = .finite .positive mantissa exponent positive) :
    NotNegative (first / second) := by
  unfold NotNegative at sign ⊢
  change IsMagnitude (unpack .binary64 (pack .binary64
    (UnpackedFloat.div .binary64 first.toModel.unpack second.toModel.unpack)))
  rw [divisor]
  generalize first.toModel.unpack = dividend at sign ⊢
  cases sign with
  | zero zeroSign => exact (unpack_pack_spec (.zero _)).1
  | infinity => exact (unpack_pack_spec .infinity).1
  | finite dividendPositive canonical => exact isMagnitude_of_roundWithAccuracy _ _ _

theorem unpack_ofUInt64 (word : UInt64) :
    word.toFloat.toModel.unpack =
      unpack .binary64 (pack .binary64 (UnpackedFloat.ofUInt64 .binary64 word)) :=
  rfl

/-- A double is rounded from the word that it belongs to. -/
theorem ofUInt64_spec (word : UInt64) :
    IsMagnitude (UnpackedFloat.ofUInt64 .binary64 word) ∧
      placeOf (UnpackedFloat.ofUInt64 .binary64 word) =
        roundedPlace (word.toNat <<< 1074) leastExponent := by
  rcases Nat.eq_zero_or_pos word.toNat with zero | positive
  · have none : word = 0 := UInt64.toNat_inj.mp zero
    have unpacked : UnpackedFloat.ofUInt64 .binary64 0 = .zero .positive := rfl
    rw [zero, Nat.zero_shiftLeft, roundedPlace_zero (Int.le_refl _), none, unpacked]
    exact ⟨.zero .positive, rfl⟩
  · have above : compare (word.toNat : Int) 0 = .gt := Int.compare_eq_gt.mpr (by omega)
    have rounded : UnpackedFloat.ofUInt64 .binary64 word =
        UnpackedFloat.round .binary64 .positive word.toNat 0 := by
      simp only [UnpackedFloat.ofUInt64, UnpackedFloat.ofNat, UnpackedFloat.ofInt,
        UnpackedFloat.normalize, above, Int.toNat_natCast]
    have spec := round_low positive (by decide : leastExponent ≤ 0) (Int.le_refl leastExponent)
    have scale : (0 - leastExponent).toNat = 1074 := rfl
    rwa [← rounded, scale] at spec

theorem NotNegative.ofUInt64 (word : UInt64) : NotNegative word.toFloat := by
  rw [NotNegative, unpack_ofUInt64]
  exact (unpack_pack_spec (ofUInt64_spec word).1).1

theorem isFinite_toFloat {word : UInt64} (small : word.toNat < 2 * leastNormal) :
    word.toFloat.isFinite = true := by
  change word.toFloat.toModel.unpack.isFinite = true
  rcases Nat.eq_zero_or_pos word.toNat with zero | positive
  · have none : word = 0 := UInt64.toNat_inj.mp zero
    subst none
    rfl
  · obtain ⟨nonzero, unpacked⟩ := unpack_toFloat positive small
    rw [unpacked]
    rfl

/-- A natural number as a double, however large. -/
theorem NotNegative.ofNat (number : Nat) : NotNegative (Float.ofNat number) := by
  change NotNegative (Float.ofScientific number false 0)
  unfold Float.ofScientific
  split
  · rename_i small
    have fits : number.toUInt64.toNat < 2 * leastNormal :=
      Nat.lt_of_le_of_lt (Nat.mod_le _ _) small.1
    have one : Float.exactlyRepresentablePowersOfTen[0] = 1 := rfl
    rw [if_neg Bool.false_ne_true, one]
    exact (NotNegative.ofUInt64 _).mul ((notNegative_iff 1).mpr rfl) (isFinite_toFloat fits)
      (Or.inr rfl)
  · change IsMagnitude (unpack .binary64 (pack .binary64
      (UnpackedFloat.ofScientific .binary64 number 0)))
    unfold UnpackedFloat.ofScientific
    split
    · exact (unpack_pack_spec (.zero .positive)).1
    · rename_i nonzero
      have notLow : ¬(0 : Int) < -(2 ^ Format.binary64.exponentBits + (number.log2 : Int)) := by
        change ¬(0 : Int) < -(2048 + (number.log2 : Int))
        omega
      rw [if_neg (by decide), if_neg notLow, if_pos (Int.le_refl 0)]
      rw [mul_positive]
      exact isMagnitude_of_roundWithAccuracy _ _ _

end SpatialWorkload.Double

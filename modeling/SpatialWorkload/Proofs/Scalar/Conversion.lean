import SpatialWorkload.Proofs.Scalar.Order

/-!
# Words as doubles and back

A word as a double is rounded, and a double as a word is cut off and bounded by the last
word.  Both ways keep the order, and there and back a double does not grow.  So a double up
to that of a word is cut off to no more than the word, unless it is the double of the word
itself and lies above it.
-/

namespace SpatialWorkload.Double

open Float.Model (UnpackedFloat Format)
open Float.Model.UnpackedFloat

/-- The whole part of an unpacked double as a word is taken from it. -/
def whole (unpacked : UnpackedFloat) : Nat :=
  (unpacked.toInt 0 (UInt64.size - 1)).toNat

theorem toNat_toUInt64 (number : Float) :
    number.toUInt64.toNat = min (whole number.toModel.unpack) (UInt64.size - 1) :=
  Word.toNat_ofNatClamp _

/-- The whole part, with the number written to the least exponent. -/
theorem wholePart_eq {mantissa : Nat} {exponent : Int} (least : leastExponent ≤ exponent) :
    wholePart mantissa exponent =
      mantissa <<< (exponent - leastExponent).toNat >>> 1074 := by
  unfold wholePart
  change -1074 ≤ exponent at least
  have scale : (exponent - leastExponent).toNat = (exponent + 1074).toNat := by
    change (exponent - -1074).toNat = _
    omega
  rw [scale]
  rcases Int.le_total 0 exponent with above | below
  · have split : (exponent + 1074).toNat = exponent.toNat + 1074 := by omega
    rw [Int.toNat_of_nonpos (Int.neg_nonpos_of_nonneg above), Nat.shiftRight_zero, split,
      Nat.shiftLeft_add, Nat.shiftLeft_shiftRight]
  · have split : 1074 = (exponent + 1074).toNat + (-exponent).toNat := by omega
    rw [Int.toNat_of_nonpos below, Nat.shiftLeft_zero]
    conv => rhs; rw [split, Nat.shiftRight_add, Nat.shiftLeft_shiftRight]

theorem whole_positive {mantissa : Nat} {exponent : Int} (positive : 0 < mantissa)
    (canonical : IsCanonical mantissa exponent) :
    whole (.finite .positive mantissa exponent positive) =
      mantissa <<< (exponent - leastExponent).toNat >>> 1074 := by
  rw [← wholePart_eq canonical.least_le]
  simp only [whole, toInt, roundToInt_positive, Int.toNat_natCast]

theorem roundedPlace_least_mono {first second : Nat} (le : first ≤ second) :
    roundedPlace first leastExponent ≤ roundedPlace second leastExponent := by
  rcases Nat.eq_zero_or_pos first with zero | positive
  · rw [zero, roundedPlace_zero (Int.le_refl _)]
    exact Nat.zero_le _
  · exact roundedPlace_mono positive le (leastExponent_le_target _ _)

theorem shiftLeft_le_shiftLeft {first second : Nat} (le : first ≤ second) (count : Nat) :
    first <<< count ≤ second <<< count := by
  rw [Nat.shiftLeft_eq, Nat.shiftLeft_eq]
  exact Nat.mul_le_mul_right _ le

/-- The larger word is no smaller as a double. -/
theorem toFloat_mono {first second : UInt64} (le : first ≤ second) :
    first.toFloat ≤ second.toFloat := by
  obtain ⟨firstSign, firstPlace⟩ := ofUInt64_spec first
  obtain ⟨secondSign, secondPlace⟩ := ofUInt64_spec second
  refine le_of_placeOf_le (unpack_ofUInt64 first) (unpack_ofUInt64 second) firstSign secondSign
    (Nat.le_trans (Nat.min_le_left _ _) ?_)
  rw [firstPlace, secondPlace]
  exact roundedPlace_least_mono (shiftLeft_le_shiftLeft (UInt64.le_iff_toNat_le.mp le) 1074)

/-- A word that is cut off from a double is no larger as a double. -/
theorem toFloat_toUInt64_le {number : Float} (sign : NotNegative number) :
    number.toUInt64.toFloat ≤ number := by
  obtain ⟨wordSign, wordPlace⟩ := ofUInt64_spec number.toUInt64
  obtain ⟨-, packedPlace⟩ := unpack_pack_spec wordSign
  rw [le_iff_placeAmong (.ofUInt64 _) sign]
  rw [placeAmong, placeAmong, unpack_ofUInt64]
  have cut := Nat.le_trans (Nat.le_of_eq (toNat_toUInt64 number)) (Nat.min_le_left _ _)
  rw [packedPlace, wordPlace]
  unfold NotNegative at sign
  generalize number.toModel.unpack = unpacked at sign cut ⊢
  cases sign with
  | zero sign =>
      have nothing : number.toUInt64.toNat = 0 := Nat.eq_zero_of_le_zero cut
      rw [nothing, Nat.zero_shiftLeft, roundedPlace_zero (Int.le_refl _)]
      exact Nat.min_le_left _ _
  | infinity => exact Nat.min_le_right _ _
  | finite positive canonical =>
      rename_i mantissa exponent
      rw [whole_positive positive canonical] at cut
      have back : number.toUInt64.toNat <<< 1074 ≤
          mantissa <<< (exponent - leastExponent).toNat := by
        refine Nat.le_trans (shiftLeft_le_shiftLeft cut 1074) ?_
        rw [Nat.shiftLeft_eq, Nat.shiftRight_eq_div_pow]
        exact Nat.div_mul_le_self _ _
      refine Nat.le_trans (Nat.min_le_left _ _) ?_
      rw [placeOf, ← canonical.roundedPlace positive canonical.least_le]
      exact roundedPlace_least_mono back

/-- The larger double is cut off to no smaller word. -/
theorem toUInt64_mono {first second : Float} (sign : NotNegative first) (le : first ≤ second) :
    first.toUInt64 ≤ second.toUInt64 := by
  have secondSign := sign.of_le le
  have places := (le_iff_placeAmong sign secondSign).mp le
  rw [UInt64.le_iff_toNat_le, toNat_toUInt64, toNat_toUInt64]
  have bounded : second.toModel.unpack ≠ .infinity .positive →
      placeAmong second < infinityPlace := secondSign.placeAmong_lt
  unfold NotNegative at sign secondSign
  unfold placeAmong at places bounded
  generalize first.toModel.unpack = lower at sign places ⊢
  generalize second.toModel.unpack = upper at secondSign places bounded ⊢
  cases sign with
  | zero zeroSign => exact Nat.le_trans (Nat.min_le_left _ _) (Nat.zero_le _)
  | infinity =>
      cases secondSign with
      | infinity => exact Nat.le_refl _
      | _ => exact absurd places (Nat.not_le.mpr (bounded nofun))
  | finite positive canonical =>
      cases secondSign with
      | zero zeroSign => exact absurd places (Nat.not_le.mpr (place_pos positive _))
      | infinity =>
          exact Nat.le_trans (Nat.min_le_right _ _) (Nat.le_of_eq (Nat.min_self _).symm)
      | finite secondPositive secondCanonical =>
          have scaled := scaledTo_mono (.finite positive canonical)
            (.finite secondPositive secondCanonical) places (Int.le_refl leastExponent) rfl rfl
          rw [whole_positive positive canonical, whole_positive secondPositive secondCanonical,
            Nat.shiftRight_eq_div_pow, Nat.shiftRight_eq_div_pow]
          have parts := Nat.div_le_div_right (c := 2 ^ 1074) scaled
          omega

/-- Only a double that is not negative has a word above zero cut off from it. -/
theorem notNegative_of_toUInt64_pos {number : Float} (positive : 0 < number.toUInt64) :
    NotNegative number := by
  rw [UInt64.lt_iff_toNat_lt, toNat_toUInt64] at positive
  have some := Nat.lt_of_lt_of_le positive (Nat.min_le_left _ _)
  unfold NotNegative
  cases unpacked : number.toModel.unpack with
  | zero sign => exact .zero sign
  | notANumber =>
      rw [unpacked] at some
      cases some
  | infinity sign =>
      cases sign with
      | positive => exact .infinity
      | negative =>
          rw [unpacked] at some
          cases some
  | finite sign mantissa exponent mantissaPos =>
      cases sign with
      | positive => exact .finite mantissaPos (isCanonical_of_unpack unpacked)
      | negative =>
          rw [unpacked] at some
          have negative := roundToInt_negative mantissa exponent
          simp only [whole, toInt, negative] at some
          change 0 < _ at some
          omega

/-- The double of a word lies above the word, also where doubles are cut off to words. -/
def RoundsUp (word : UInt64) : Prop :=
  word < word.toFloat.toUInt64

/-- A double up to that of a word is cut off to more only where the latter lies above it. -/
theorem lt_toUInt64_iff {number : Float} {word : UInt64} (below : number ≤ word.toFloat) :
    word < number.toUInt64 ↔ RoundsUp word ∧ word.toFloat ≤ number := by
  constructor
  · intro above
    have sign := notNegative_of_toUInt64_pos (UInt64.lt_of_le_of_lt UInt64.zero_le above)
    have back : word.toFloat ≤ number :=
      le_trans (toFloat_mono (UInt64.le_of_lt above)) (toFloat_toUInt64_le sign)
    exact ⟨UInt64.lt_of_lt_of_le above (toUInt64_mono sign below), back⟩
  · rintro ⟨roundsUp, equal⟩
    exact UInt64.lt_of_lt_of_le roundsUp (toUInt64_mono (.ofUInt64 word) equal)

/-- Words of at most 53 bits are doubles. -/
theorem not_roundsUp_of_lt {word : UInt64} (small : word.toNat < 2 * leastNormal) :
    ¬RoundsUp word := by
  have self : word.toFloat ≤ word.toFloat :=
    (le_self_iff _).mpr (NotNegative.ofUInt64 word).isNumber
  exact UInt64.not_lt.mpr (toUInt64_le_of_le_toFloat small self)

end SpatialWorkload.Double

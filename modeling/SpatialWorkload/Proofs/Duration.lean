import SpatialWorkload.Duration
import SpatialWorkload.Proofs.Scalar.Order

/-!
# Durations of seconds

A number of seconds that is not negative has a duration exactly when it is below `2 ^ 64`.
-/

namespace SpatialWorkload

open Float.Model (UnpackedFloat Format)
open Float.Model.UnpackedFloat

namespace Decimal.Binary

theorem toNat_unpackExponent (bits : UInt64) :
    (@unpackExponent .binary64 bits.toBitVec).toNat = bits.toNat / hiddenBit % 2048 := by
  change bits.toNat >>> 52 % 2 ^ 11 = _
  rw [Nat.shiftRight_eq_div_pow]
  rfl

theorem toNat_unpackMantissa (bits : UInt64) :
    (@unpackMantissa .binary64 bits.toBitVec).toNat = bits.toNat % hiddenBit := by
  change bits.toNat >>> 0 % 2 ^ 52 = _
  rw [Nat.shiftRight_zero]
  rfl

theorem unpackSign_eq_zero_iff (bits : UInt64) :
    @unpackSign .binary64 bits.toBitVec = 0#1 ↔ ¬signBit ≤ bits.toNat := by
  have value : (@unpackSign .binary64 bits.toBitVec).toNat = bits.toNat / signBit % 2 := by
    change bits.toNat >>> 63 % 2 ^ 1 = _
    rw [Nat.shiftRight_eq_div_pow]
    rfl
  have small := bits.toNat_lt
  rw [← BitVec.toNat_inj, value]
  change bits.toNat / 9223372036854775808 % 2 = 0 ↔ ¬9223372036854775808 ≤ bits.toNat
  omega

def ofUnpacked : UnpackedFloat → Binary
  | .notANumber => .nan
  | .infinity sign => .infinite (sign == .negative)
  | .zero sign => .finite (sign == .negative) 0 Double.leastExponent
  | .finite sign mantissa exponent _ => .finite (sign == .negative) mantissa exponent

/-- The two readings of the bits of a double agree. -/
theorem ofFloat_eq (number : Float) : ofFloat number = ofUnpacked number.toModel.unpack := by
  obtain ⟨bits, valid⟩ := number
  change ofBits bits = ofUnpacked (unpack .binary64 bits.toBitVec)
  have sign : (Sign.ofBitVec (@unpackSign .binary64 bits.toBitVec) == .negative) =
      decide (signBit ≤ bits.toNat) := by
    rw [Sign.ofBitVec]
    by_cases high : signBit ≤ bits.toNat
    · rw [if_neg fun zero => (unpackSign_eq_zero_iff bits).mp zero high, decide_eq_true high]
      rfl
    · rw [if_pos ((unpackSign_eq_zero_iff bits).mpr high), decide_eq_false high]
      rfl
  have exponent := toNat_unpackExponent bits
  have mantissa := toNat_unpackMantissa bits
  rw [ofBits, ← exponent, ← mantissa, ← sign, unpack]
  dsimp only
  have special : @unpackExponent .binary64 bits.toBitVec = -1#11 ↔
      (@unpackExponent .binary64 bits.toBitVec).toNat = 2047 :=
    BitVec.toNat_inj.symm
  have least : @unpackExponent .binary64 bits.toBitVec = 0#11 ↔
      (@unpackExponent .binary64 bits.toBitVec).toNat = 0 :=
    BitVec.toNat_inj.symm
  have nothing : @unpackMantissa .binary64 bits.toBitVec = 0#52 ↔
      (@unpackMantissa .binary64 bits.toBitVec).toNat = 0 :=
    BitVec.toNat_inj.symm
  by_cases isSpecial : @unpackExponent .binary64 bits.toBitVec = -1#11
  · rw [if_pos isSpecial, ofFields, if_pos (special.mp isSpecial)]
    by_cases isZero : @unpackMantissa .binary64 bits.toBitVec = 0#52
    · rw [if_pos isZero, if_pos (nothing.mp isZero)]
      rfl
    · rw [if_neg isZero, if_neg (nothing.not.mp isZero)]
      rfl
  · rw [if_neg isSpecial, ofFields, if_neg (special.not.mp isSpecial)]
    by_cases isLeast : @unpackExponent .binary64 bits.toBitVec = 0#11
    · have lowest : ((@unpackExponent .binary64 bits.toBitVec).toNat : Int) -
          ((1023 : Nat) + (52 : Nat)) + 1 = Double.leastExponent := by
        rw [isLeast]
        rfl
      rw [if_pos isLeast, if_pos (least.mp isLeast)]
      by_cases isZero : @unpackMantissa .binary64 bits.toBitVec = 0#52
      · rw [dif_pos isZero, nothing.mp isZero]
        rfl
      · rw [dif_neg isZero]
        exact congrArg (Binary.finite _ _) lowest.symm
    · have hidden : (1#1 ++ @unpackMantissa .binary64 bits.toBitVec).toNat =
          hiddenBit + (@unpackMantissa .binary64 bits.toBitVec).toNat := by
        rw [BitVec.toNat_append, ← Nat.shiftLeft_add_eq_or_of_lt
          (@unpackMantissa .binary64 bits.toBitVec).isLt]
        rfl
      rw [if_neg isLeast, if_neg (least.not.mp isLeast), ← hidden]
      rfl

end Decimal.Binary

namespace Duration

open Double

/-- From this number of seconds on there are no durations. -/
def limit : Float := Float.ofNat UInt64.size

theorem unpack_limit :
    limit.toModel.unpack = .finite .positive leastNormal 12 (by decide) :=
  rfl

theorem notNegative_limit : NotNegative limit :=
  (notNegative_iff limit).mpr rfl

theorem ofBinary_denominator_pos (mantissa : Nat) (exponent : Int) :
    0 < (Decimal.Ratio.ofBinary mantissa exponent).denominator :=
  Nat.two_pow_pos _

/-- A canonical number is at or above the limit as its exponent says. -/
theorem size_le_ofBinary_iff {mantissa : Nat} {exponent : Int}
    (canonical : IsCanonical mantissa exponent) :
    (Decimal.Ratio.ofBinary mantissa exponent).denominator * UInt64.size ≤
        (Decimal.Ratio.ofBinary mantissa exponent).numerator ↔
      place leastNormal 12 ≤ place mantissa exponent := by
  have high := canonical.mantissa_lt
  change (2 ^ (-exponent).toNat * 18446744073709551616 ≤ mantissa * 2 ^ exponent.toNat) ↔
    1087 * leastNormal ≤ place mantissa exponent
  rcases Int.lt_or_le 11 exponent with large | small
  · have normal := canonical.normal (by change -1074 < exponent; omega)
    have steps : 1086 ≤ (exponent - leastExponent).toNat := by
      change 1086 ≤ (exponent - -1074).toNat
      omega
    have products := Nat.mul_le_mul_right leastNormal steps
    refine iff_of_true ?_ ?_
    · calc 2 ^ (-exponent).toNat * 18446744073709551616
          = leastNormal * 2 ^ 12 := by rw [show (-exponent).toNat = 0 by omega]; rfl
        _ ≤ mantissa * 2 ^ exponent.toNat :=
            Nat.mul_le_mul normal (Nat.pow_le_pow_right Nat.two_pos (by omega))
    · rw [place]
      omega
  · have steps : (exponent - leastExponent).toNat ≤ 1085 := by
      change (exponent - -1074).toNat ≤ 1085
      omega
    have products := Nat.mul_le_mul_right leastNormal steps
    refine iff_of_false (Nat.not_le.mpr ?_) ?_
    · calc mantissa * 2 ^ exponent.toNat
          < 2 * leastNormal * 2 ^ 11 :=
            Nat.mul_lt_mul_of_lt_of_le high (Nat.pow_le_pow_right Nat.two_pos (by omega))
              (Nat.two_pow_pos _)
        _ = 1 * 18446744073709551616 := rfl
        _ ≤ 2 ^ (-exponent).toNat * 18446744073709551616 :=
            Nat.mul_le_mul_right _ (Nat.two_pow_pos _)
    · rw [place]
      omega

/-- A number of seconds that is not negative has no duration from the limit on. -/
theorem ofSeconds?_eq_none_iff {seconds : Float} (sign : 0 ≤ seconds) :
    ofSeconds? seconds = none ↔ limit ≤ seconds := by
  have magnitude := (notNegative_iff seconds).mpr sign
  rw [le_iff_placeAmong notNegative_limit magnitude, ofSeconds?, Decimal.Binary.ofFloat_eq,
    placeAmong, placeAmong, unpack_limit]
  unfold NotNegative at magnitude
  generalize seconds.toModel.unpack = unpacked at magnitude ⊢
  cases magnitude with
  | zero sign =>
      have positive := ofBinary_denominator_pos 0 leastExponent
      have small : ¬(Decimal.Ratio.ofBinary 0 leastExponent).denominator * UInt64.size ≤
          (Decimal.Ratio.ofBinary 0 leastExponent).numerator := by
        rw [Decimal.Ratio.ofBinary, Nat.zero_mul]
        exact Nat.not_le.mpr (Nat.mul_pos positive (by decide))
      have below : ¬place leastNormal 12 ≤ 0 := by decide
      simp only [Decimal.Binary.ofUnpacked, bne_self_eq_false, Bool.and_false, if_neg small]
      exact iff_of_false (Option.some_ne_none _) below
  | infinity => exact iff_of_true rfl (by decide)
  | finite positive canonical =>
      have large := size_le_ofBinary_iff canonical
      simp only [Decimal.Binary.ofUnpacked, placeOf, ← large]
      split
      · rename_i negative
        cases negative
      · split
        · rename_i atLeast
          exact iff_of_true rfl atLeast
        · rename_i below
          exact iff_of_false (Option.some_ne_none _) below

theorem notNegative_toSeconds (duration : Duration) : NotNegative duration.toSeconds := by
  have nanos : (Float.ofNat nanosPerSecond).toModel.unpack =
      .finite .positive 8388608000000000 (-23) (by decide) :=
    rfl
  refine NotNegative.add (.ofNat _) ?_
  exact NotNegative.div (.ofNat _) nanos

end Duration

end SpatialWorkload

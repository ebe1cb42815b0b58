import Mathlib
import SpatialWorkload.Proofs.Word
import SpatialWorkload.Scalar.Double

/-!
# Whole parts of doubles

A double that is not above a word of at most 53 bits has a whole part that is not above it
either.  Doubles are read as mantissa and exponent: an unpacked double is canonical, the
order of canonical ones is that of exponent first and mantissa second, and the whole part
follows this order.
-/

namespace SpatialWorkload.Double

open Float.Model (UnpackedFloat Format)
open Float.Model.UnpackedFloat

/-- The least mantissa with all its 53 bits. -/
def leastNormal : Nat := 4503599627370496

def leastExponent : Int := -1074

/-- A mantissa has at most 53 bits, and exactly so many unless the exponent is the least. -/
structure IsCanonical (mantissa : Nat) (exponent : Int) : Prop where
  mantissa_lt : mantissa < 2 * leastNormal
  least_le : leastExponent ≤ exponent
  normal : leastExponent < exponent → leastNormal ≤ mantissa

/-- What a packed double unpacks to is canonical. -/
theorem isCanonical_of_unpack {bits : BitVec Format.binary64.numBits} {sign : Sign}
    {mantissa : Nat} {exponent : Int} {positive : 0 < mantissa}
    (unpacked : unpack .binary64 bits = .finite sign mantissa exponent positive) :
    IsCanonical mantissa exponent := by
  have low : (unpackMantissa bits).toNat < leastNormal := (unpackMantissa bits).isLt
  unfold unpack at unpacked
  dsimp only at unpacked
  split at unpacked
  · split at unpacked <;> cases unpacked
  · split at unpacked
    · rename_i subnormal
      split at unpacked
      · cases unpacked
      · injection unpacked with _ mantissas exponents
        have exponentBits : (unpackExponent bits).toNat = 0 := by
          rw [subnormal]
          rfl
        rw [exponentBits] at exponents
        have least : exponent = leastExponent := by
          rw [← exponents]
          decide
        exact ⟨by omega, by omega, by omega⟩
    · rename_i notSubnormal
      injection unpacked with _ mantissas exponents
      have withImplicit : (1#1 ++ unpackMantissa bits).toNat =
          leastNormal + (unpackMantissa bits).toNat := by
        rw [BitVec.toNat_append, ← Nat.shiftLeft_add_eq_or_of_lt (unpackMantissa bits).isLt]
        rfl
      have exponentPos : 0 < (unpackExponent bits).toNat := by
        refine Nat.pos_of_ne_zero fun zero => notSubnormal ?_
        exact BitVec.eq_of_toNat_eq zero
      change ((unpackExponent bits).toNat : Int) - (1023 + 52) = exponent at exponents
      rw [withImplicit] at mantissas
      refine ⟨by omega, ?_, by omega⟩
      change -1074 ≤ exponent
      omega

def wholePart (mantissa : Nat) (exponent : Int) : Nat :=
  mantissa <<< exponent.toNat >>> (-exponent).toNat

theorem shift_mantissa (count mantissa : Nat) (accuracy : Accuracy) :
    (ExtendedMantissa.ofMantissaAndAccuracy mantissa accuracy >>> count).mantissa =
      mantissa >>> count := by
  change (Nat.repeat ExtendedMantissa.shiftRightOne count _).mantissa = _
  induction count with
  | zero =>
      cases accuracy with
      | exact => rfl
      | inexact order => cases order <;> rfl
  | succ count ih =>
      rw [Nat.repeat, Nat.shiftRight_succ, ← ih]
      rfl

theorem roundToInt_positive (mantissa : Nat) (exponent : Int) :
    roundToInt .positive mantissa exponent = wholePart mantissa exponent := by
  have left : (exponent - 0).toNat = exponent.toNat := by
    rw [Int.sub_zero]
  have right : (0 - (exponent - (exponent.toNat : Int))).toNat = (-exponent).toNat := by
    omega
  simp only [roundToInt, decreaseExponent, shiftToExponent, shift_mantissa, Sign.apply, left,
    right, wholePart]

theorem roundToInt_negative (mantissa : Nat) (exponent : Int) :
    roundToInt .negative mantissa exponent = -(wholePart mantissa exponent : Int) := by
  rw [← roundToInt_positive]
  rfl

theorem wholePart_mono_mantissa {first second : Nat} (exponent : Int) (le : first ≤ second) :
    wholePart first exponent ≤ wholePart second exponent := by
  unfold wholePart
  rw [Nat.shiftLeft_eq, Nat.shiftLeft_eq, Nat.shiftRight_eq_div_pow, Nat.shiftRight_eq_div_pow]
  exact Nat.div_le_div_right (Nat.mul_le_mul_right _ le)

theorem wholePart_double (mantissa : Nat) (exponent : Int) :
    wholePart (2 * mantissa) exponent = wholePart mantissa (exponent + 1) := by
  unfold wholePart
  rcases Int.lt_trichotomy exponent (-1) with below | equal | above
  · obtain ⟨count, counted⟩ : ∃ count : Nat, (-exponent).toNat = count + 1 :=
      ⟨(-exponent).toNat - 1, by omega⟩
    have next : (-(exponent + 1)).toNat = count := by omega
    rw [show exponent.toNat = 0 by omega, show (exponent + 1).toNat = 0 by omega, counted, next,
      Nat.shiftLeft_zero, Nat.shiftLeft_zero, Nat.add_comm count 1, Nat.shiftRight_add]
    congr 1
    rw [Nat.shiftRight_one]
    omega
  · subst equal
    change (2 * mantissa) >>> 1 = mantissa
    rw [Nat.shiftRight_one]
    omega
  · rw [show (-exponent).toNat = 0 by omega, show (-(exponent + 1)).toNat = 0 by omega,
      show (exponent + 1).toNat = 1 + exponent.toNat by omega, Nat.shiftRight_zero,
      Nat.shiftRight_zero, Nat.shiftLeft_add]
    congr 1

theorem wholePart_mono_exponent (mantissa : Nat) {first second : Int} (le : first ≤ second) :
    wholePart mantissa first ≤ wholePart mantissa second := by
  obtain ⟨count, rfl⟩ := Int.le.dest le
  induction count with
  | zero => exact Nat.le_of_eq (by simp)
  | succ count ih =>
      refine Nat.le_trans (ih (by omega)) ?_
      have next : first + (count + 1 : Nat) = first + count + 1 := by omega
      rw [next, ← wholePart_double]
      exact wholePart_mono_mantissa _ (by omega)

/-- Canonical doubles are ordered by their exponents first, and whole parts follow. -/
theorem wholePart_mono {firstMantissa secondMantissa : Nat} {firstExponent secondExponent : Int}
    (first : IsCanonical firstMantissa firstExponent)
    (second : IsCanonical secondMantissa secondExponent)
    (ordered : ((compare firstExponent secondExponent).then
      (compare firstMantissa secondMantissa)).isLE = true) :
    wholePart firstMantissa firstExponent ≤ wholePart secondMantissa secondExponent := by
  rcases Int.lt_trichotomy firstExponent secondExponent with less | equal | greater
  · have normal := second.normal (by have := first.least_le; omega)
    calc wholePart firstMantissa firstExponent
        ≤ wholePart (2 * leastNormal) firstExponent :=
          wholePart_mono_mantissa _ (Nat.le_of_lt first.mantissa_lt)
      _ = wholePart leastNormal (firstExponent + 1) := wholePart_double _ _
      _ ≤ wholePart secondMantissa (firstExponent + 1) := wholePart_mono_mantissa _ normal
      _ ≤ wholePart secondMantissa secondExponent := wholePart_mono_exponent _ (by omega)
  · subst equal
    have mantissas : firstMantissa ≤ secondMantissa := by
      simpa [Std.compare_self, Nat.isLE_compare] using ordered
    exact wholePart_mono_mantissa _ mantissas
  · have reversed : compare firstExponent secondExponent = .gt := Int.compare_eq_gt.mpr greater
    rw [reversed] at ordered
    cases ordered

theorem log2_eq_of_bounds {number power : Nat} (low : 2 ^ power ≤ number)
    (high : number < 2 ^ (power + 1)) : number.log2 = power := by
  have positive : number ≠ 0 := by
    have := Nat.two_pow_pos power
    omega
  have atLeast := (Nat.le_log2 positive).mpr low
  have below := (Nat.log2_lt positive).mpr high
  omega

/-- A mantissa of exactly 53 bits is not rounded any further. -/
theorem roundWithAccuracy_exact (sign : Sign) {mantissa : Nat} {exponent : Int}
    (positive : 0 < mantissa) (bits : mantissa.log2 = 52) (least : leastExponent ≤ exponent) :
    roundWithAccuracy Format.binary64 sign mantissa exponent .exact =
      .finite sign mantissa exponent positive := by
  have target : Format.binary64.targetExponent (Float.Model.totalExponent mantissa exponent) =
      exponent := by
    change max ((mantissa.log2 : Int) + 1 + exponent - 53) (-1074) = exponent
    change -1074 ≤ exponent at least
    omega
  have shift : shiftToTargetExponent Format.binary64 mantissa exponent .exact =
      (⟨mantissa, false, false⟩, exponent) := by
    simp only [shiftToTargetExponent, shiftToExponent, target, Int.sub_self]
    exact Prod.ext rfl (Int.add_zero exponent)
  simp only [roundWithAccuracy, shift, ExtendedMantissa.roundedMantissa,
    ExtendedMantissa.accuracy, Accuracy.roundToNearestEven]
  exact dif_neg (Nat.ne_of_gt positive)

/-- The packed bits leave out the leading bit of the mantissa. -/
theorem toNat_withImplicit {mantissa : Nat} (low : leastNormal ≤ mantissa)
    (high : mantissa < 2 * leastNormal) :
    (1#1 ++ BitVec.ofNat 52 mantissa).toNat = mantissa := by
  have rest : mantissa % 2 ^ 52 = mantissa - leastNormal := by
    change mantissa % leastNormal = _
    rw [Nat.mod_eq_sub_mod low]
    exact Nat.mod_eq_of_lt (by omega)
  have value : (BitVec.ofNat 52 mantissa).toNat = mantissa - leastNormal :=
    (BitVec.toNat_ofNat mantissa 52).trans rest
  rw [BitVec.toNat_append, ← Nat.shiftLeft_add_eq_or_of_lt (BitVec.ofNat 52 mantissa).isLt,
    value]
  change leastNormal + _ = _
  omega

theorem pack_eq {mantissa : Nat} {exponent : Int} (positive : 0 < mantissa)
    (low : leastNormal ≤ mantissa) (high : mantissa < 2 * leastNormal) (most : exponent ≤ 971) :
    pack .binary64 (.finite .positive mantissa exponent positive) =
      packComponents .binary64 .positive (BitVec.ofNat 11 (exponent + 1075).toNat)
        (BitVec.ofNat 52 mantissa) := by
  have bits : mantissa.log2 = 52 := log2_eq_of_bounds low high
  have biased : (exponent + (Format.binary64.exponentBias : Nat) +
      (Format.binary64.mantissaBitsWithoutImplicit : Nat)).toNat = (exponent + 1075).toNat := by
    change (exponent + (1023 : Nat) + (52 : Nat)).toNat = _
    omega
  have size : (2 : Nat) ^ Format.binary64.exponentBits = 2048 := rfl
  simp only [pack, biased, bits, size]
  rw [if_neg (by omega)]
  exact if_pos rfl

/-- Packing loses nothing of a number with a 53-bit mantissa and a moderate exponent. -/
theorem unpack_pack {mantissa : Nat} {exponent : Int} (positive : 0 < mantissa)
    (low : leastNormal ≤ mantissa) (high : mantissa < 2 * leastNormal)
    (least : leastExponent ≤ exponent) (most : exponent ≤ 971) :
    UnpackedFloat.unpack .binary64 (pack .binary64 (.finite .positive mantissa exponent positive)) =
      .finite .positive mantissa exponent positive := by
  change -1074 ≤ exponent at least
  have exponentValue : (BitVec.ofNat 11 (exponent + 1075).toNat).toNat =
      (exponent + 1075).toNat := by
    rw [BitVec.toNat_ofNat]
    exact Nat.mod_eq_of_lt (by change _ < 2048; omega)
  have notSpecial : BitVec.ofNat 11 (exponent + 1075).toNat ≠ -1#11 := by
    intro equal
    have values := congrArg BitVec.toNat equal
    rw [exponentValue] at values
    change (exponent + 1075).toNat = 2047 at values
    omega
  have notSubnormal : BitVec.ofNat 11 (exponent + 1075).toNat ≠ 0#11 := by
    intro equal
    have values := congrArg BitVec.toNat equal
    rw [exponentValue] at values
    change (exponent + 1075).toNat = 0 at values
    omega
  have signBit : unpackSign (packComponents .binary64 .positive
      (BitVec.ofNat 11 (exponent + 1075).toNat) (BitVec.ofNat 52 mantissa)) = 0#1 :=
    unpackSign_packComponents _ _ _
  rw [pack_eq positive low high most]
  simp only [UnpackedFloat.unpack, unpackMantissa_packComponents, unpackExponent_packComponents,
    signBit, if_neg notSpecial, if_neg notSubnormal, toNat_withImplicit low high, exponentValue]
  have unbiased : ((exponent + 1075).toNat : Int) - ((1023 : Nat) + (52 : Nat)) = exponent := by
    omega
  congr 1

theorem IsCanonical.shift {number : Nat} (positive : 0 < number)
    (small : number < 2 * leastNormal) :
    (number <<< (52 - number.log2)).log2 = 52 ∧
      leastNormal ≤ number <<< (52 - number.log2) ∧
      number <<< (52 - number.log2) < 2 * leastNormal := by
  have nonzero : number ≠ 0 := by omega
  have bits : number.log2 ≤ 52 := by
    have := (Nat.log2_lt (k := 53) nonzero).mpr small
    omega
  have low := Nat.log2_self_le nonzero
  have high := (Nat.log2_lt nonzero).mp (Nat.lt_succ_self number.log2)
  have powers : 2 ^ number.log2 * 2 ^ (52 - number.log2) = leastNormal := by
    rw [← Nat.pow_add, Nat.add_sub_cancel' bits]
    rfl
  have shiftLow : leastNormal ≤ number <<< (52 - number.log2) := by
    rw [Nat.shiftLeft_eq, ← powers]
    exact Nat.mul_le_mul_right _ low
  have shiftHigh : number <<< (52 - number.log2) < 2 * leastNormal := by
    rw [Nat.shiftLeft_eq, ← powers, ← Nat.mul_assoc]
    refine Nat.mul_lt_mul_of_pos_right ?_ (Nat.two_pow_pos _)
    rw [Nat.pow_succ] at high
    omega
  exact ⟨log2_eq_of_bounds shiftLow shiftHigh, shiftLow, shiftHigh⟩

/-- A word of at most 53 bits is a double, with its bits moved up to the top. -/
theorem unpack_toFloat {word : UInt64} (positive : 0 < word.toNat)
    (small : word.toNat < 2 * leastNormal) :
    ∃ nonzero, word.toFloat.toModel.unpack =
      .finite .positive (word.toNat <<< (52 - word.toNat.log2)) ((word.toNat.log2 : Int) - 52)
        nonzero := by
  obtain ⟨bits, low, high⟩ := IsCanonical.shift positive small
  have top : word.toNat.log2 ≤ 52 := by
    have := (Nat.log2_lt (k := 53) (by omega)).mpr small
    omega
  have least : leastExponent ≤ (word.toNat.log2 : Int) - 52 := by
    change -1074 ≤ (word.toNat.log2 : Int) - 52
    omega
  have nonzero : 0 < word.toNat <<< (52 - word.toNat.log2) :=
    Nat.lt_of_lt_of_le (by decide) low
  refine ⟨nonzero, ?_⟩
  have target : Format.binary64.targetExponent (Float.Model.totalExponent word.toNat 0) =
      (word.toNat.log2 : Int) - 52 := by
    change max ((word.toNat.log2 : Int) + 1 + 0 - 53) (-1074) = _
    omega
  have count : (0 - ((word.toNat.log2 : Int) - 52)).toNat = 52 - word.toNat.log2 := by
    omega
  have rounded : UnpackedFloat.ofUInt64 .binary64 word =
      .finite .positive (word.toNat <<< (52 - word.toNat.log2)) ((word.toNat.log2 : Int) - 52)
        nonzero := by
    have above : compare (word.toNat : Int) 0 = .gt := Int.compare_eq_gt.mpr (by omega)
    have exponent : (0 : Int) - ((52 - word.toNat.log2 : Nat) : Int) =
        (word.toNat.log2 : Int) - 52 := by
      omega
    simp only [UnpackedFloat.ofUInt64, UnpackedFloat.ofNat, UnpackedFloat.ofInt,
      UnpackedFloat.normalize, above, UnpackedFloat.round, decreaseExponent, target, count,
      Int.toNat_natCast, exponent]
    exact roundWithAccuracy_exact .positive nonzero bits least
  change UnpackedFloat.unpack .binary64 (pack .binary64 (UnpackedFloat.ofUInt64 .binary64 word)) = _
  rw [rounded]
  exact unpack_pack nonzero low high least (by omega)

theorem wholePart_shift {number : Nat} (bits : number.log2 ≤ 52) :
    wholePart (number <<< (52 - number.log2)) ((number.log2 : Int) - 52) = number := by
  unfold wholePart
  rw [show ((number.log2 : Int) - 52).toNat = 0 by omega,
    show (-((number.log2 : Int) - 52)).toNat = 52 - number.log2 by omega, Nat.shiftLeft_zero]
  exact Nat.shiftLeft_shiftRight _ _

theorem le_iff_compare (first second : Float) :
    first ≤ second ↔
      ((first.toModel.unpack.compare second.toModel.unpack).any (·.isLE)) = true := by
  change decide ((first.toModel.unpack.compare second.toModel.unpack).any (·.isLE) = true) =
    true ↔ _
  exact decide_eq_true_iff

/-- Only a positive double has a whole part above zero. -/
theorem toNat_toInt_le {unpacked : UnpackedFloat} {limit : Nat}
    (bounded : unpacked ≠ .infinity .positive)
    (whole : ∀ mantissa exponent positive,
      unpacked = .finite .positive mantissa exponent positive →
        wholePart mantissa exponent ≤ limit) :
    (unpacked.toInt 0 (UInt64.size - 1)).toNat ≤ limit := by
  cases unpacked with
  | infinity sign =>
      cases sign with
      | negative => exact Nat.zero_le limit
      | positive => exact absurd rfl bounded
  | notANumber => exact Nat.zero_le limit
  | zero sign => exact Nat.zero_le limit
  | finite sign mantissa exponent positive =>
      cases sign with
      | negative =>
          have negative := roundToInt_negative mantissa exponent
          simp only [toInt, negative]
          omega
      | positive =>
          simp only [toInt, roundToInt_positive, Int.toNat_natCast]
          exact whole mantissa exponent positive rfl

/-- A double that is not above a word of at most 53 bits has no whole part above it. -/
theorem toUInt64_le_of_le_toFloat {number : Float} {word : UInt64}
    (small : word.toNat < 2 * leastNormal) (below : number ≤ word.toFloat) :
    number.toUInt64 ≤ word := by
  suffices whole : (number.toModel.unpack.toInt 0 (UInt64.size - 1)).toNat ≤ word.toNat from
    UInt64.le_iff_toNat_le.mpr <| calc
      number.toUInt64.toNat
      _ = min (number.toModel.unpack.toInt 0 (UInt64.size - 1)).toNat (UInt64.size - 1) :=
        Word.toNat_ofNatClamp _
      _ ≤ (number.toModel.unpack.toInt 0 (UInt64.size - 1)).toNat := Nat.min_le_left _ _
      _ ≤ word.toNat := whole
  have ordered := (le_iff_compare number word.toFloat).mp below
  rcases Nat.eq_zero_or_pos word.toNat with zero | positive
  · have word_eq : word = 0 := UInt64.toNat_inj.mp zero
    have unpacked : (0 : UInt64).toFloat.toModel.unpack = .zero .positive := rfl
    rw [word_eq, unpacked] at ordered
    refine toNat_toInt_le ?_ ?_
    · intro infinite
      rw [infinite] at ordered
      cases ordered
    · intro mantissa exponent positive finite
      rw [finite] at ordered
      cases ordered
  · obtain ⟨nonzero, unpacked⟩ := unpack_toFloat positive small
    obtain ⟨-, low, high⟩ := IsCanonical.shift positive small
    have top : word.toNat.log2 ≤ 52 := by
      have := (Nat.log2_lt (k := 53) (by omega)).mpr small
      omega
    have canonical : IsCanonical (word.toNat <<< (52 - word.toNat.log2))
        ((word.toNat.log2 : Int) - 52) := by
      refine ⟨high, ?_, fun _ => low⟩
      change -1074 ≤ (word.toNat.log2 : Int) - 52
      omega
    rw [unpacked] at ordered
    refine toNat_toInt_le ?_ ?_
    · intro infinite
      rw [infinite] at ordered
      cases ordered
    · intro mantissa exponent mantissaPos finite
      rw [finite] at ordered
      have parts := wholePart_mono (isCanonical_of_unpack finite) canonical ordered
      rwa [wholePart_shift top] at parts

end SpatialWorkload.Double

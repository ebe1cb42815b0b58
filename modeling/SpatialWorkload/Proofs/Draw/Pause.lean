import SpatialWorkload.Proofs.Duration
import SpatialWorkload.Run.Workload

/-!
# Pauses before a retry

The factor by which a pause is stretched lies between four fifths and six fifths, and words
of all ones reach the upper end.  So whether some pause of a workload is too long to be a
duration is settled there.
-/

namespace SpatialWorkload

open Float.Model (UnpackedFloat Format)
open Float.Model.UnpackedFloat
open Double

namespace Words

theorem unpack_two_pow : (Float.ofNat 4503599627370496).toModel.unpack =
    .finite .positive leastNormal 0 (by decide) :=
  rfl

/-- Dividing by a power of two changes nothing but the exponent. -/
theorem div_two_pow {mantissa : Nat} {exponent : Int} (positive : 0 < mantissa)
    (bits : mantissa.log2 = 52) (above : leastExponent + 53 ≤ exponent) :
    UnpackedFloat.div .binary64 (.finite .positive mantissa exponent positive)
        (.finite .positive leastNormal 0 (by decide)) =
      roundWithAccuracy .binary64 .positive (2 * mantissa) (exponent - 53) .exact := by
  change -1074 + 53 ≤ exponent at above
  have lowered : min (exponent - 0) (Format.binary64.targetExponent
      (Float.Model.totalExponent mantissa exponent -
        Float.Model.totalExponent leastNormal 0)) = exponent - 53 := by
    have ones : leastNormal.log2 = 52 := by decide
    change min (exponent - 0) (max ((mantissa.log2 : Int) + 1 + exponent -
      ((leastNormal.log2 : Int) + 1 + 0) - 53) (-1074)) = _
    rw [bits, ones]
    omega
  have shift : (exponent - 0 - (exponent - 53)).toNat = 53 := by omega
  have shifted : mantissa <<< 53 = 2 * mantissa * leastNormal := by
    rw [Nat.shiftLeft_eq, Nat.mul_comm 2, Nat.mul_assoc]
    rfl
  have core : divCore .binary64 mantissa exponent leastNormal 0 =
      (2 * mantissa, exponent - 53, .exact) := by
    simp only [divCore, lowered, shift, shifted]
    rw [Nat.mul_div_cancel _ (by decide), Nat.mul_mod_left]
    rfl
  simp only [UnpackedFloat.div, core]
  rfl

/-- The place of a fraction that is not zero. -/
theorem placeAmong_fraction {word : UInt64} (positive : 0 < word.toNat)
    (small : word.toNat < leastNormal) :
    placeAmong (word.toFloat / Float.ofNat 4503599627370496) =
      place (word.toNat <<< (52 - word.toNat.log2)) ((word.toNat.log2 : Int) - 104) := by
  have short : word.toNat < 2 * leastNormal := by omega
  obtain ⟨nonzero, unpacked⟩ := unpack_toFloat positive short
  obtain ⟨bits, low, high⟩ := IsCanonical.shift positive short
  generalize word.toNat <<< (52 - word.toNat.log2) = mantissa at nonzero unpacked bits low high ⊢
  have divided : (word.toFloat / Float.ofNat 4503599627370496).toModel.unpack =
      unpack .binary64 (pack .binary64 (UnpackedFloat.div .binary64
        word.toFloat.toModel.unpack (Float.ofNat 4503599627370496).toModel.unpack)) :=
    rfl
  have moderate : leastExponent + 53 ≤ (word.toNat.log2 : Int) - 52 := by
    change -1074 + 53 ≤ (word.toNat.log2 : Int) - 52
    omega
  have canonical : IsCanonical mantissa ((word.toNat.log2 : Int) - 104) :=
    ⟨high, by omega, fun _ => low⟩
  have doubled : mantissa <<< ((word.toNat.log2 : Int) - 104 -
      ((word.toNat.log2 : Int) - 52 - 53)).toNat = 2 * mantissa := by
    have one : ((word.toNat.log2 : Int) - 104 - ((word.toNat.log2 : Int) - 52 - 53)).toNat = 1 := by
      omega
    rw [one, Nat.shiftLeft_eq, Nat.pow_one, Nat.mul_comm]
  have above : (word.toNat.log2 : Int) - 52 - 53 ≤
      target (2 * mantissa) ((word.toNat.log2 : Int) - 52 - 53) := by
    rw [target_eq, Nat.log2_two_mul (Nat.ne_of_gt nonzero), bits]
    omega
  have own := canonical.roundedPlace nonzero
    (by omega : (word.toNat.log2 : Int) - 52 - 53 ≤ (word.toNat.log2 : Int) - 104)
  obtain ⟨sign, placed⟩ := roundWithAccuracy_spec (by omega : 0 < 2 * mantissa) above
  have bounded : place mantissa ((word.toNat.log2 : Int) - 104) ≤ infinityPlace := by
    have steps : ((word.toNat.log2 : Int) - 104 - leastExponent).toNat ≤ 2045 := by
      have top := (Nat.log2_lt (k := 52) (Nat.ne_of_gt positive)).mpr small
      change ((word.toNat.log2 : Int) - 104 - -1074).toNat ≤ 2045
      omega
    have products := Nat.mul_le_mul_right leastNormal steps
    rw [place, infinityPlace]
    omega
  rw [placeAmong, divided, unpacked, unpack_two_pow, div_two_pow nonzero bits moderate,
    (unpack_pack_spec sign).2, placed, ← doubled, own, Nat.min_eq_left bounded]

theorem coarseFraction_notNegative (words : Words) : NotNegative words.coarseFraction.1 :=
  NotNegative.div (.ofUInt64 _) unpack_two_pow

theorem placeAmong_largestFraction :
    placeAmong largestFraction = place (2 * leastNormal - 2) (-53) := by
  decide +kernel

theorem coarseFraction_le (words : Words) : words.coarseFraction.1 ≤ largestFraction := by
  have largest : NotNegative largestFraction := NotNegative.div (.ofNat _) unpack_two_pow
  rw [le_iff_placeAmong words.coarseFraction_notNegative largest, placeAmong_largestFraction]
  change placeAmong ((words.next.1 >>> 12).toFloat / Float.ofNat 4503599627370496) ≤ _
  have small : (words.next.1 >>> 12).toNat < leastNormal := by
    have shifted : (words.next.1 >>> 12).toNat = words.next.1.toNat >>> 12 := rfl
    have width := words.next.1.toNat_lt
    rw [shifted, Nat.shiftRight_eq_div_pow]
    exact Nat.div_lt_of_lt_mul width
  generalize words.next.1 >>> 12 = word at small ⊢
  rcases Nat.eq_zero_or_pos word.toNat with zero | positive
  · have none : word = 0 := UInt64.toNat_inj.mp zero
    have nowhere : placeAmong ((0 : UInt64).toFloat / Float.ofNat 4503599627370496) = 0 := by
      decide +kernel
    rw [none, nowhere]
    exact Nat.zero_le _
  · have short : word.toNat < 2 * leastNormal := by omega
    obtain ⟨-, -, high⟩ := IsCanonical.shift positive short
    have top := (Nat.log2_lt (k := 52) (Nat.ne_of_gt positive)).mpr small
    have steps : ((word.toNat.log2 : Int) - 104 - leastExponent).toNat =
        word.toNat.log2 + 970 := by
      change ((word.toNat.log2 : Int) - 104 - -1074).toNat = _
      omega
    rw [placeAmong_fraction positive small, place, steps]
    change _ ≤ 1021 * leastNormal + (2 * leastNormal - 2)
    rcases Nat.lt_or_eq_of_le (Nat.le_of_lt_succ top) with below | equal
    · have products := Nat.mul_le_mul_right leastNormal (by omega : word.toNat.log2 + 970 ≤ 1020)
      omega
    · rw [equal, Nat.shiftLeft_eq] at *
      omega

end Words

namespace Words

/-- The width of the range of factors is not changed by the fit. -/
theorem pauseScale_eq : fitScale (fun reached => decide ((1.2 : Float) < reached + 0.8)) 64
    ((1.2 - 0.8) / largestFraction) = 0.4 := by
  decide +kernel

theorem pauseFactor_eq (words : Words) :
    (words.factorBetween 0.8 1.2).1 = words.coarseFraction.1 * 0.4 + 0.8 := by
  rw [← pauseScale_eq]
  rfl

/-- A pause is at least four fifths and at most six fifths of the interval. -/
theorem pauseFactor_bounds (words : Words) :
    0.8 ≤ (words.factorBetween 0.8 1.2).1 ∧ (words.factorBetween 0.8 1.2).1 ≤ 1.2 := by
  have fraction := words.coarseFraction_notNegative
  have below := words.coarseFraction_le
  have finite : largestFraction.isFinite = true := by decide +kernel
  have width : (0 : Float) ≤ 0.4 := by decide +kernel
  have widthFinite : (0.4 : Float).isFinite = true := by decide +kernel
  have low : (0 : Float) ≤ 0.8 := by decide +kernel
  have product : words.coarseFraction.1 * 0.4 ≤ largestFraction * 0.4 :=
    mul_le_mul_right ((notNegative_iff _).mp fraction) below finite width (Or.inr widthFinite)
  have start : (0 : Float) ≤ words.coarseFraction.1 * 0.4 :=
    (notNegative_iff _).mp (fraction.mul ((notNegative_iff _).mpr width)
      (fraction.isFinite_of_le below finite) (Or.inr widthFinite))
  have least : (0.8 : Float) = 0 + 0.8 := by decide +kernel
  have most : largestFraction * 0.4 + 0.8 = 1.2 := by decide +kernel
  have zero : (0 : Float) ≤ 0 := by decide +kernel
  rw [pauseFactor_eq]
  constructor
  · calc (0.8 : Float)
        = 0 + 0.8 := least
      _ ≤ words.coarseFraction.1 * 0.4 + 0.8 := add_le_add_right zero start low
  · calc words.coarseFraction.1 * 0.4 + 0.8
        ≤ largestFraction * 0.4 + 0.8 := add_le_add_right start product low
      _ = 1.2 := most

def allOnes : Words := ⟨fun _ => 18446744073709551615, 0⟩

/-- They stretch a pause the most. -/
theorem pauseFactor_allOnes : (allOnes.factorBetween 0.8 1.2).1 = 1.2 := by
  decide +kernel

end Words

namespace Workload

/-- A pause is lost exactly where the stretched interval is too long to be a duration. -/
theorem drawPause_eq_none_iff (workload : Workload) (words : Words) :
    (workload.drawPause words).1 = none ↔
      Duration.limit ≤
        (words.factorBetween 0.8 1.2).1 * workload.config.retryInterval.toSeconds := by
  obtain ⟨low, high⟩ := words.pauseFactor_bounds
  have least : NotNegative 0.8 := (notNegative_iff _).mpr (by decide +kernel)
  have positive := pos_of_le (by decide +kernel : (0 : Float) < 0.8) low
  have stretched : 0 ≤
      (words.factorBetween 0.8 1.2).1 * workload.config.retryInterval.toSeconds := by
    refine (notNegative_iff _).mp ((least.of_le low).mul (Duration.notNegative_toSeconds _) ?_
      (Or.inl positive))
    exact (least.of_le low).isFinite_of_le high (by decide +kernel)
  exact Duration.ofSeconds?_eq_none_iff stretched

/-- Some pause is lost exactly when six fifths of the interval are no duration. -/
theorem exists_drawPause_eq_none_iff (workload : Workload) :
    (∃ words, (workload.drawPause words).1 = none) ↔
      Duration.limit ≤ 1.2 * workload.config.retryInterval.toSeconds := by
  simp only [drawPause_eq_none_iff]
  constructor
  · rintro ⟨words, long⟩
    obtain ⟨low, high⟩ := words.pauseFactor_bounds
    have positive := pos_of_le (by decide +kernel : (0 : Float) < 0.8) low
    have interval := (notNegative_iff _).mp
      (Duration.notNegative_toSeconds workload.config.retryInterval)
    have sign := (notNegative_iff _).mp ((pos_iff _).mp positive).1
    have stretched := mul_le_mul_right sign high (by decide +kernel) interval (Or.inl positive)
    exact le_trans long stretched
  · intro long
    refine ⟨Words.allOnes, ?_⟩
    rwa [Words.pauseFactor_allOnes]

/-- Pauses drawn one after another, up to the first that is too long to be one. -/
def drawPauses (workload : Workload) : Nat → Words → List Duration × Words
  | 0, words => ([], words)
  | count + 1, words =>
      match workload.drawPause words with
      | (none, rest) => ([], rest)
      | (some pause, rest) =>
          let (later, rest) := workload.drawPauses count rest
          (pause :: later, rest)

variable {workload : Workload} {words rest : Words}

theorem drawPauses_of_none (lost : workload.drawPause words = (none, rest)) (count : Nat) :
    workload.drawPauses (count + 1) words = ([], rest) := by
  simp only [drawPauses, lost]

theorem drawPauses_of_some {pause : Duration}
    (drawn : workload.drawPause words = (some pause, rest)) (count : Nat) :
    workload.drawPauses (count + 1) words =
      (pause :: (workload.drawPauses count rest).1, (workload.drawPauses count rest).2) := by
  simp only [drawPauses, drawn]

theorem length_drawPauses_le (workload : Workload) (count : Nat) (words : Words) :
    (workload.drawPauses count words).1.length ≤ count := by
  induction count generalizing words with
  | zero => exact Nat.le_refl 0
  | succ count ih =>
      rcases drawn : workload.drawPause words with ⟨_ | pause, rest⟩
      · rw [drawPauses_of_none drawn]
        exact Nat.zero_le _
      · rw [drawPauses_of_some drawn]
        exact Nat.succ_le_succ (ih rest)

/-- Where no pause is too long all of them are drawn. -/
theorem length_drawPauses
    (short : ¬Duration.limit ≤ 1.2 * workload.config.retryInterval.toSeconds) (count : Nat)
    (words : Words) : (workload.drawPauses count words).1.length = count := by
  induction count generalizing words with
  | zero => rfl
  | succ count ih =>
      rcases drawn : workload.drawPause words with ⟨_ | pause, rest⟩
      · have lost := workload.exists_drawPause_eq_none_iff.mp ⟨words, congrArg Prod.fst drawn⟩
        exact absurd lost short
      · rw [drawPauses_of_some drawn]
        exact congrArg Nat.succ (ih rest)

end Workload

end SpatialWorkload

import Mathlib.Analysis.SpecialFunctions.Log.Basic
import SpatialWorkload.Draw.Exponential
import SpatialWorkload.Proofs.Scalar.Real

/-!
# The cut-off exponential law in exact arithmetic

The direct draw takes a share of the numbers below the cut, turns it into the number that has
this share below it, and keeps the whole part.  So each whole number is answered exactly on
the shares of the numbers that begin with it.
-/

namespace SpatialWorkload

/-- The probability that an exponential number of a rate lies below a whole number. -/
noncomputable def shareBelow (rate : ℝ) (count : ℕ) : ℝ :=
  1 - Real.exp (-rate * count)

theorem shareBelow_zero (rate : ℝ) : shareBelow rate 0 = 0 := by
  simp [shareBelow]

theorem shareBelow_lt_one (rate : ℝ) (count : ℕ) : shareBelow rate count < 1 :=
  sub_lt_self _ (Real.exp_pos _)

theorem truncatedMass_real (rate : ℝ) (greatest : ℕ) :
    truncatedMass rate greatest = shareBelow rate (greatest + 1) := by
  rw [truncatedMass, Scalar.one_real, shareBelow, Nat.cast_add, Nat.cast_one]
  rfl

/-- The number that has a share of the exponential numbers below it. -/
noncomputable def quantile (rate share : ℝ) : ℝ :=
  -Real.log (1 - share) / rate

theorem truncate_floor (number : ℝ) :
    Scalar.truncate (Scalar.floor number) = min ⌊number⌋₊ (UInt64.size - 1) := by
  change min ⌊((⌊number⌋ : ℤ) : ℝ)⌋₊ (UInt64.size - 1) = _
  rw [← Int.floor_toNat, Int.floor_intCast, Int.floor_toNat]

theorem floor_le_iff (number : ℝ) (count : ℕ) :
    Scalar.le (Scalar.floor number) (count : ℝ) = true ↔ ⌊number⌋₊ ≤ count := by
  change decide (((⌊number⌋ : ℤ) : ℝ) ≤ (count : ℝ)) = true ↔ _
  rw [decide_eq_true_iff, ← Int.floor_toNat, Int.toNat_le]
  exact_mod_cast Iff.rfl

section

variable {rate : ℝ} (positive : 0 < rate)

include positive

theorem shareBelow_strictMono : StrictMono (shareBelow rate) := by
  intro first second less
  have scaled : rate * first < rate * second := by gcongr
  have powers := Real.exp_lt_exp.mpr (neg_lt_neg scaled)
  rw [← neg_mul, ← neg_mul] at powers
  exact sub_lt_sub_left powers 1

theorem shareBelow_nonneg (count : ℕ) : 0 ≤ shareBelow rate count := by
  rw [← shareBelow_zero rate]
  exact (shareBelow_strictMono positive).monotone (Nat.zero_le count)

theorem shareBelow_succ_pos (count : ℕ) : 0 < shareBelow rate (count + 1) :=
  (shareBelow_nonneg positive count).trans_lt (shareBelow_strictMono positive count.lt_succ_self)

theorem le_quantile_iff {share : ℝ} (proper : share < 1) (count : ℕ) :
    count ≤ quantile rate share ↔ shareBelow rate count ≤ share := by
  calc (count : ℝ) ≤ quantile rate share
      ↔ Real.log (1 - share) ≤ -rate * count := by
        rw [quantile, le_div_iff₀ positive, neg_mul, mul_comm rate, le_neg]
    _ ↔ 1 - share ≤ Real.exp (-rate * count) := Real.log_le_iff_le_exp (sub_pos.mpr proper)
    _ ↔ shareBelow rate count ≤ share := sub_le_comm

theorem floor_quantile_eq_iff {share : ℝ} (nonneg : 0 ≤ share) (proper : share < 1) (count : ℕ) :
    ⌊quantile rate share⌋₊ = count ↔
      shareBelow rate count ≤ share ∧ share < shareBelow rate (count + 1) := by
  have begins : 0 ≤ quantile rate share := by
    have := (le_quantile_iff positive proper 0).mpr (by rwa [shareBelow_zero])
    exact_mod_cast this
  rw [Nat.floor_eq_iff begins, le_quantile_iff positive proper, ← Nat.cast_succ, ← not_le,
    le_quantile_iff positive proper, not_le]

section

variable {draw : ℝ} (low : 0 ≤ draw) (high : draw < 1) (span : UInt64)

include low high

theorem share_mem :
    0 ≤ draw * shareBelow rate (span.toNat + 1) ∧
      draw * shareBelow rate (span.toNat + 1) < shareBelow rate (span.toNat + 1) := by
  have mass := shareBelow_succ_pos positive span.toNat
  exact ⟨mul_nonneg low mass.le, mul_lt_of_lt_one_left mass high⟩

/-- The bound of the direct draw never bounds: the number lies below the cut. -/
theorem truncatedExponential_eq_floor :
    truncatedExponential rate span.toNat draw =
        ⌊quantile rate (draw * shareBelow rate (span.toNat + 1))⌋₊ ∧
      truncatedExponential rate span.toNat draw =
        Scalar.truncate (Scalar.floor
          (-(Scalar.ln (Scalar.one - draw * truncatedMass rate span.toNat)) / rate)) := by
  obtain ⟨nonneg, below⟩ := share_mem positive low high span
  have proper := below.trans (shareBelow_lt_one rate _)
  have number : -(Scalar.ln (Scalar.one - draw * truncatedMass rate span.toNat)) / rate =
      quantile rate (draw * shareBelow rate (span.toNat + 1)) := by
    rw [truncatedMass_real, Scalar.one_real]
    rfl
  have within : ⌊quantile rate (draw * shareBelow rate (span.toNat + 1))⌋₊ ≤ span.toNat := by
    rw [← Nat.lt_succ_iff, ← not_le]
    intro beyond
    have reached := (Nat.le_floor_iff' (Nat.succ_ne_zero _)).mp beyond
    exact not_le.mpr below ((le_quantile_iff positive proper _).mp reached)
  have cut : Scalar.truncate (Scalar.floor
      (-(Scalar.ln (Scalar.one - draw * truncatedMass rate span.toNat)) / rate)) =
        ⌊quantile rate (draw * shareBelow rate (span.toNat + 1))⌋₊ := by
    rw [number, truncate_floor]
    exact min_eq_left (within.trans (Nat.le_pred_of_lt span.toNat_lt))
  rw [cut, and_self]
  exact (congrArg (Nat.min · span.toNat) cut).trans (min_eq_left within)

/-- Each whole number up to the cut is drawn exactly on the shares that begin with it. -/
theorem truncatedExponential_eq_iff (count : ℕ) :
    truncatedExponential rate span.toNat draw = count ↔
      count ≤ span.toNat ∧
        shareBelow rate count / truncatedMass rate span.toNat ≤ draw ∧
          draw < shareBelow rate (count + 1) / truncatedMass rate span.toNat := by
  obtain ⟨nonneg, below⟩ := share_mem positive low high span
  have mass := shareBelow_succ_pos positive span.toNat
  have proper := below.trans (shareBelow_lt_one rate _)
  rw [(truncatedExponential_eq_floor positive low high span).1, truncatedMass_real,
    floor_quantile_eq_iff positive nonneg proper, div_le_iff₀ mass, lt_div_iff₀ mass]
  refine ⟨fun inside => ⟨?_, inside⟩, And.right⟩
  have less := inside.1.trans_lt below
  exact Nat.lt_succ_iff.mp ((shareBelow_strictMono positive).lt_iff_lt.mp less)

theorem truncatedExponential_le_iff (count : ℕ) :
    truncatedExponential rate span.toNat draw ≤ count ↔
      draw < shareBelow rate (count + 1) / truncatedMass rate span.toNat := by
  obtain ⟨nonneg, below⟩ := share_mem positive low high span
  have mass := shareBelow_succ_pos positive span.toNat
  have proper := below.trans (shareBelow_lt_one rate _)
  rw [(truncatedExponential_eq_floor positive low high span).1, truncatedMass_real,
    lt_div_iff₀ mass, ← Nat.lt_succ_iff, Nat.floor_lt' (Nat.succ_ne_zero _), ← not_le,
    le_quantile_iff positive proper, not_le]

end

end

end SpatialWorkload

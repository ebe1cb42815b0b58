import Mathlib.Analysis.SpecialFunctions.Log.Basic
import Mathlib.Analysis.SpecialFunctions.Trigonometric.Inverse
import SpatialWorkload.Scalar

/-!
# Real numbers as scalars

Exact arithmetic: the definitions over scalars, read over the real numbers.  Each scalar
operation is restated as the operation on real numbers that it is.
-/

namespace SpatialWorkload

noncomputable instance : Scalar ℝ where
  ofNat n := n
  decimal digits places := digits / 10 ^ places
  pi := Real.pi
  abs a := |a|
  sqrt := Real.sqrt
  sin := Real.sin
  cos := Real.cos
  arcsin := Real.arcsin
  exp := Real.exp
  ln := Real.log
  floor a := ⌊a⌋
  truncate a := min ⌊a⌋₊ (UInt64.size - 1)
  lt a b := decide (a < b)
  le a b := decide (a ≤ b)
  ranked a b := decide (a ≤ b)

namespace Scalar

variable (a b : ℝ)

theorem decimal_real (digits places : Nat) :
    (decimal digits places : ℝ) = digits / 10 ^ places :=
  rfl

theorem zero_real : (zero : ℝ) = 0 :=
  Nat.cast_zero

theorem one_real : (one : ℝ) = 1 :=
  Nat.cast_one

theorem two_real : (two : ℝ) = 2 :=
  Nat.cast_ofNat

@[simp]
theorem lt_real : lt a b = true ↔ a < b :=
  decide_eq_true_iff

@[simp]
theorem le_real : le a b = true ↔ a ≤ b :=
  decide_eq_true_iff

theorem max_real : Scalar.max a b = max a b := by
  unfold Scalar.max isNumber
  split
  · rename_i less
    exact (max_eq_right ((lt_real a b).mp less).le).symm
  · rename_i notLess
    rw [if_pos ((le_real a a).mpr le_rfl)]
    exact (max_eq_left (not_lt.mp fun less => notLess ((lt_real a b).mpr less))).symm

theorem min_real : Scalar.min a b = min a b := by
  unfold Scalar.min isNumber
  split
  · rename_i less
    exact (min_eq_right ((lt_real b a).mp less).le).symm
  · rename_i notLess
    rw [if_pos ((le_real a a).mpr le_rfl)]
    exact (min_eq_left (not_lt.mp fun less => notLess ((lt_real b a).mpr less))).symm

theorem clamp_real_of_mem {low high : ℝ} (above : low ≤ a) (below : a ≤ high) :
    clamp a low high = a := by
  unfold clamp
  rw [if_neg fun less => not_lt.mpr above ((lt_real a low).mp less),
    if_neg fun less => not_lt.mpr below ((lt_real high a).mp less)]

theorem clamp_real_mem {low high : ℝ} (ordered : low ≤ high) :
    low ≤ clamp a low high ∧ clamp a low high ≤ high := by
  unfold clamp
  split
  · exact ⟨le_rfl, ordered⟩
  · rename_i above
    split
    · exact ⟨ordered, le_rfl⟩
    · rename_i below
      exact ⟨not_lt.mp fun less => above ((lt_real a low).mpr less),
        not_lt.mp fun less => below ((lt_real high a).mpr less)⟩

theorem square_real : square a = a ^ 2 :=
  (sq a).symm

theorem toRadians_real : toRadians a = a * (Real.pi / 180) :=
  rfl

end Scalar

end SpatialWorkload

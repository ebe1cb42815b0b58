import Mathlib.Algebra.Order.Field.Basic
import Mathlib.Algebra.Order.Group.Abs
import Mathlib.Data.Rat.Floor
import SpatialWorkload.Scalar

/-!
# Exact arithmetic

The numbers of an ordered field as scalars: sums, products and comparisons are those of the
field and nothing is rounded.  What leads out of the field is left open, so that a statement
about the rational numbers holds whatever stands in for a sine or a square root.
-/

namespace SpatialWorkload

/-- The functions that sums, products and comparisons do not determine. -/
class ElementaryFunctions (α : Type) where
  pi : α
  sqrt : α → α
  sin : α → α
  cos : α → α
  arcsin : α → α
  exp : α → α
  ln : α → α
  floor : α → α
  truncate : α → Nat

/-- The rational numbers, with zero where a function leads out of them. -/
instance : ElementaryFunctions ℚ where
  pi := 0
  sqrt _ := 0
  sin _ := 0
  cos _ := 0
  arcsin _ := 0
  exp _ := 0
  ln _ := 0
  floor a := ⌊a⌋
  truncate a := min ⌊a⌋₊ (UInt64.size - 1)

namespace Scalar

variable {α : Type} [Field α] [LinearOrder α] [functions : ElementaryFunctions α]

instance exact : Scalar α where
  ofNat n := n
  decimal digits places := digits / ((10 ^ places : Nat) : α)
  pi := functions.pi
  abs a := |a|
  sqrt := functions.sqrt
  sin := functions.sin
  cos := functions.cos
  arcsin := functions.arcsin
  exp := functions.exp
  ln := functions.ln
  floor := functions.floor
  truncate := functions.truncate
  lt a b := decide (a < b)
  le a b := decide (a ≤ b)
  ranked a b := decide (a ≤ b)

variable (a b : α)

theorem zero_exact : (zero : α) = 0 :=
  Nat.cast_zero

theorem lt_exact : lt a b = true ↔ a < b :=
  decide_eq_true_iff

theorem le_exact : le a b = true ↔ a ≤ b :=
  decide_eq_true_iff

theorem max_exact : Scalar.max a b = max a b := by
  unfold Scalar.max isNumber
  split
  · rename_i less
    exact (max_eq_right ((lt_exact a b).mp less).le).symm
  · rename_i notLess
    rw [if_pos ((le_exact a a).mpr le_rfl)]
    exact (max_eq_left (not_lt.mp fun less => notLess ((lt_exact a b).mpr less))).symm

theorem min_exact : Scalar.min a b = min a b := by
  unfold Scalar.min isNumber
  split
  · rename_i less
    exact (min_eq_right ((lt_exact b a).mp less).le).symm
  · rename_i notLess
    rw [if_pos ((le_exact a a).mpr le_rfl)]
    exact (min_eq_left (not_lt.mp fun less => notLess ((lt_exact b a).mpr less))).symm

theorem same_exact : same a b = true ↔ a = b := by
  rw [same, Bool.and_eq_true, le_exact, le_exact]
  exact le_antisymm_iff.symm

end Scalar

end SpatialWorkload

import Mathlib.Analysis.Convex.Topology
import Mathlib.Analysis.LocallyConvex.Separation
import SpatialWorkload.Proofs.Ring.Bounds
import SpatialWorkload.Proofs.Ring.Convex
import SpatialWorkload.Proofs.Scalar.Real

/-!
# What a ring contains lies in its convex hull

The real numbers are an ordered field, so what holds in exact arithmetic holds of them.  A
point outside the convex hull of the vertices is separated from them by a line, so that the
half-planes about the vertices have the hull in common, and all that a ring contains lies in it.
-/

namespace SpatialWorkload

namespace Scalar

/-- What sums, products and comparisons leave open, for the real numbers. -/
noncomputable abbrev realFunctions : ElementaryFunctions ℝ where
  pi := Real.pi
  sqrt := Real.sqrt
  sin := Real.sin
  cos := Real.cos
  arcsin := Real.arcsin
  exp := Real.exp
  ln := Real.log
  floor a := ⌊a⌋
  truncate a := min ⌊a⌋₊ (UInt64.size - 1)

theorem real_eq_exact : (instScalarReal : Scalar ℝ) = @exact ℝ _ _ realFunctions := by
  have decimals : (fun digits places : Nat => (digits : ℝ) / 10 ^ places) =
      fun digits places : Nat => (digits : ℝ) / ((10 ^ places : Nat) : ℝ) := by
    funext digits places
    rw [Nat.cast_pow, Nat.cast_ofNat]
  unfold instScalarReal exact
  rw [decimals]
  rfl

end Scalar

namespace Ring

theorem contains_openRing_real (ring : Ring ℝ) (latitude longitude : ℝ) :
    contains (openRing ring) latitude longitude = contains ring latitude longitude := by
  rw [Scalar.real_eq_exact]
  exact @contains_openRing ℝ _ _ Scalar.realFunctions _ ring latitude longitude

def points (ring : Ring ℝ) : Set (ℝ × ℝ) :=
  (fun vertex : Position ℝ => (vertex.latitude, vertex.longitude)) '' {vertex | vertex ∈ ring}

theorem finite_points (ring : Ring ℝ) : (points ring).Finite :=
  (List.finite_toSet ring).image _

theorem mem_points {ring : Ring ℝ} {vertex : Position ℝ} (member : vertex ∈ ring) :
    (vertex.latitude, vertex.longitude) ∈ points ring :=
  ⟨vertex, member, rfl⟩

variable {ring : Ring ℝ} {latitude longitude : ℝ}

/-- What all half-planes about the vertices have in common is their convex hull. -/
theorem inHull_iff_mem_convexHull :
    InHull ring latitude longitude ↔ (latitude, longitude) ∈ convexHull ℝ (points ring) := by
  constructor
  · intro hull
    by_contra outside
    obtain ⟨normal, level, before, behind⟩ := geometric_hahn_banach_point_closed
      (convex_convexHull ℝ (points ring)) ((finite_points ring).isClosed_convexHull ℝ) outside
    have coordinates (a b : ℝ) : normal (a, b) = normal (1, 0) * a + normal (0, 1) * b := by
      have split : (a, b) = a • ((1 : ℝ), (0 : ℝ)) + b • ((0 : ℝ), (1 : ℝ)) := by simp
      rw [split, map_add, map_smul, map_smul, smul_eq_mul, smul_eq_mul, mul_comm a, mul_comm b]
    have separated := hull (-normal (0, 1)) (-normal (1, 0)) (-level) fun vertex member => by
      have far := behind _ (subset_convexHull ℝ _ (mem_points member))
      rw [coordinates] at far
      linarith
    rw [coordinates] at before
    linarith
  · intro inside a b c holds
    have halfPlane : Convex ℝ {point : ℝ × ℝ | a * point.2 + b * point.1 ≤ c} := by
      refine convex_halfSpace_le ⟨fun first second => ?_, fun factor point => ?_⟩ c
      · rw [Prod.fst_add, Prod.snd_add]
        ring
      · rw [Prod.smul_fst, Prod.smul_snd, smul_eq_mul, smul_eq_mul, smul_eq_mul]
        ring
    refine convexHull_min ?_ halfPlane inside
    rintro _ ⟨vertex, member, rfl⟩
    exact holds vertex member

/-- A ring contains no point outside the convex hull of its vertices. -/
theorem mem_convexHull_of_contains (inside : contains ring latitude longitude = true) :
    (latitude, longitude) ∈ convexHull ℝ (points ring) := by
  rw [Scalar.real_eq_exact] at inside
  rw [← inHull_iff_mem_convexHull]
  exact @inHull_of_contains ℝ _ _ _ latitude longitude ring Scalar.realFunctions inside

end Ring

theorem Table.inside_real (positions : List (Position ℝ)) (ring : Ring ℝ) :
    inside positions ring =
      positions.filter fun position => Ring.contains ring position.latitude position.longitude := by
  rw [Scalar.real_eq_exact]
  exact @inside_exact ℝ _ _ _ Scalar.realFunctions positions ring

/-- A scan of a polygon finds what is stored and what the ring contains. -/
theorem MemoryStore.mem_scan_inside {store : MemoryStore ℝ} {name : String} {ring : Ring ℝ}
    {position : Position ℝ} :
    position ∈ store.scan name (.inside ring) ↔ position ∈ store.positions name ∧
      Ring.contains ring position.latitude position.longitude = true := by
  unfold scan positions
  cases store.table? name with
  | none => exact iff_of_false List.not_mem_nil fun both => List.not_mem_nil both.1
  | some table =>
      change position ∈ Table.inside table.positions.toList ring ↔ _
      rw [Table.inside_real, List.mem_filter]
      rfl

end SpatialWorkload

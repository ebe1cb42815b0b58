import Mathlib.Analysis.Real.Pi.Bounds
import SpatialWorkload.Proofs.Ring.Square

/-!
# How far the corners of a square stand

On a flat map a corner is as far from the centre as the diagonal of half the side.  On the
globe the parallels of the corner and of the centre differ in length, and a degree is read off
a sphere of another size.  As long as the corner's parallel is not too short, neither shifts
the distance by as much as a twentieth.
-/

namespace SpatialWorkload

namespace Sphere

/-- The cosine of a small angle, from above. -/
theorem cos_le_of_abs_le_one {angle : ℝ} (small : |angle| ≤ 1) :
    Real.cos angle ≤ 1 - angle ^ 2 / 2 + angle ^ 4 * (5 / 96) := by
  have expansion := (abs_le.mp (Real.cos_bound small)).2
  rw [Even.pow_abs (by decide)] at expansion
  linarith

section

variable {latitude corner span turn : ℝ} (offset : |corner - latitude| = span)
  (width : Real.cos corner * |turn| = span)

include offset

/-- The cosine of the angle falls by the parallels' share of the turn. -/
theorem cosine_eq_sub :
    Real.sin latitude * Real.sin corner + Real.cos latitude * Real.cos corner * Real.cos turn =
      Real.cos span - Real.cos latitude * Real.cos corner * (1 - Real.cos turn) := by
  rw [← offset, Real.cos_abs, Real.cos_sub]
  ring

include width

/-- A turn along both parallels differs from one along the corner's by a share of the turn. -/
theorem abs_parallels_sub_le :
    |Real.cos latitude * Real.cos corner * turn ^ 2 - span ^ 2| ≤ span ^ 2 * |turn| := by
  have lipschitz := Real.abs_cos_sub_cos_le latitude corner
  rw [abs_sub_comm latitude, offset] at lipschitz
  have nonneg : 0 ≤ span := offset ▸ abs_nonneg _
  have apart : Real.cos latitude * Real.cos corner * turn ^ 2 - span ^ 2 =
      (Real.cos latitude - Real.cos corner) * (span * |turn|) := by
    rw [← width, ← sq_abs turn]
    ring
  rw [apart, abs_mul, abs_of_nonneg (mul_nonneg nonneg (abs_nonneg turn))]
  calc |Real.cos latitude - Real.cos corner| * (span * |turn|)
      ≤ span * (span * |turn|) :=
        mul_le_mul_of_nonneg_right lipschitz (mul_nonneg nonneg (abs_nonneg turn))
    _ = span ^ 2 * |turn| := by ring

variable (short : span ≤ 1 / 30) (narrow : |turn| ≤ 1 / 6)
  (parallels : 0 ≤ Real.cos latitude * Real.cos corner)

include short narrow parallels

/-- The corner is at most that much farther than its parallel is. -/
theorem cos_le_cosine :
    Real.cos (37 / 25 * span) ≤
      Real.sin latitude * Real.sin corner +
        Real.cos latitude * Real.cos corner * Real.cos turn := by
  have nonneg : 0 ≤ span := offset ▸ abs_nonneg _
  have square : span ^ 2 ≤ 1 / 900 := by nlinarith
  have small : |37 / 25 * span| ≤ 1 := by
    rw [abs_of_nonneg (by positivity)]
    linarith
  have above := cos_le_of_abs_le_one small
  have side := Real.one_sub_sq_div_two_le_cos (x := span)
  have chord := mul_le_mul_of_nonneg_left (Real.one_sub_sq_div_two_le_cos (x := turn)) parallels
  have share := (abs_le.mp (abs_parallels_sub_le offset width)).2
  have wide := mul_le_mul_of_nonneg_left narrow (sq_nonneg span)
  have fourth : span ^ 4 ≤ span ^ 2 / 900 := by nlinarith [sq_nonneg span]
  rw [cosine_eq_sub offset]
  linarith [sq_nonneg span]

theorem cosine_le_cos :
    Real.sin latitude * Real.sin corner + Real.cos latitude * Real.cos corner * Real.cos turn ≤
      Real.cos (27 / 20 * span) := by
  have nonneg : 0 ≤ span := offset ▸ abs_nonneg _
  have square : span ^ 2 ≤ 1 / 900 := by nlinarith
  have below := Real.one_sub_sq_div_two_le_cos (x := 27 / 20 * span)
  have small : |span| ≤ 1 := by
    rw [abs_of_nonneg nonneg]
    linarith
  have side := cos_le_of_abs_le_one small
  have turned : Real.cos turn ≤ 1 - turn ^ 2 / 2 + turn ^ 4 * (5 / 96) :=
    cos_le_of_abs_le_one (by linarith)
  have turnSquare : turn ^ 2 ≤ 1 / 36 := by
    rw [← sq_abs]
    nlinarith [abs_nonneg turn]
  have fall : turn ^ 2 / 2 * (1 - 5 / 1728) ≤ 1 - Real.cos turn := by
    nlinarith [sq_nonneg turn]
  have chord := mul_le_mul_of_nonneg_left fall parallels
  have share := (abs_le.mp (abs_parallels_sub_le offset width)).1
  have wide := mul_le_mul_of_nonneg_left narrow (sq_nonneg span)
  have fourth : span ^ 4 ≤ span ^ 2 / 900 := by nlinarith [sq_nonneg span]
  rw [cosine_eq_sub offset]
  linarith [sq_nonneg span]

end

theorem latitudeDegrees_real (km : ℝ) : latitudeDegrees km = 25 / 2783 * km := by
  rw [latitudeDegrees, kmPerDegree, Scalar.decimal_real]
  norm_num
  ring

/-- A degree of the flat Earth is a little longer than one of the globe. -/
theorem radians_latitudeDegrees_mem {km : ℝ} (nonneg : 0 ≤ km) :
    6371 * radians (latitudeDegrees km) ∈ Set.Icc (799 / 800 * km) (999 / 1000 * km) := by
  have low := mul_le_mul_of_nonneg_left Real.pi_gt_d4.le nonneg
  have high := mul_le_mul_of_nonneg_left Real.pi_lt_d4.le nonneg
  norm_num at low high
  rw [latitudeDegrees_real, radians]
  constructor <;> linarith

end Sphere

namespace Ring

open Sphere (latitudeDegrees radians centralAngle)

variable {reference : Position ℝ} {km : ℝ}

section

variable (low : |reference.latitude| ≤ 70) (positive : 0 < km) (short : km ≤ 200)

include low positive short

theorem isSmall_of_le : IsSmall reference km := by
  refine ⟨positive, ?_⟩
  rw [Sphere.latitudeDegrees_real]
  norm_num
  linarith

omit low in
theorem radians_span_le : radians (latitudeDegrees km) ≤ 1 / 30 := by
  have := (Sphere.radians_latitudeDegrees_mem positive.le).2
  linarith

/-- The corner's parallel is at least a fifth of the equator. -/
theorem IsCorner.fifth_le_cos {vertex : Position ℝ} (isCorner : IsCorner reference km vertex) :
    1 / 5 ≤ Real.cos (radians vertex.latitude) := by
  have near := (isSmall_of_le low positive short).abs_corner_le isCorner.offset
  rw [Sphere.latitudeDegrees_real] at near
  have most : radians |vertex.latitude| ≤ radians 72 :=
    Sphere.radians_le_radians.mpr (by linarith)
  have line : 2 / Real.pi * radians 72 = 4 / 5 := by
    unfold radians
    field_simp
    norm_num
  have quarter : radians |vertex.latitude| ≤ Real.pi / 2 := by
    rw [← Sphere.radians_ninety, Sphere.radians_le_radians]
    linarith
  rw [← Sphere.abs_radians] at most quarter
  have chord := Real.one_sub_mul_le_cos (abs_nonneg _) quarter
  have share := mul_le_mul_of_nonneg_left most (by positivity : 0 ≤ 2 / Real.pi)
  rw [Real.cos_abs] at chord
  linarith

theorem IsCorner.centralAngle_mem {vertex : Position ℝ} (isCorner : IsCorner reference km vertex) :
    centralAngle reference.latitude reference.longitude vertex.latitude vertex.longitude ∈
      Set.Icc (27 / 20 * radians (latitudeDegrees km))
        (37 / 25 * radians (latitudeDegrees km)) := by
  have small := isSmall_of_le low positive short
  have nonneg := small.radians_span_pos.le
  have offset : |radians vertex.latitude - radians reference.latitude| =
      radians (latitudeDegrees km) := by
    rcases radians_offset isCorner.offset with above | below
    · rw [above, add_sub_cancel_left, abs_of_nonneg nonneg]
    · rw [below, sub_sub_cancel_left, abs_neg, abs_of_nonneg nonneg]
  have width : Real.cos (radians vertex.latitude) *
      |radians (vertex.longitude - reference.longitude)| = radians (latitudeDegrees km) := by
    rw [Sphere.abs_radians, mul_comm, Sphere.radians_mul, mul_comm, isCorner.width]
  have cosine := isCorner.fifth_le_cos low positive short
  have side := radians_span_le positive short
  have narrow : |radians (vertex.longitude - reference.longitude)| ≤ 1 / 6 := by
    have least := mul_le_mul_of_nonneg_right cosine
      (abs_nonneg (radians (vertex.longitude - reference.longitude)))
    linarith
  have parallels : 0 ≤ Real.cos (radians reference.latitude) *
      Real.cos (radians vertex.latitude) :=
    mul_nonneg (Sphere.cos_latitude_nonneg (by linarith)) (by linarith)
  have above := Sphere.cos_le_cosine offset width side narrow parallels
  have below := Sphere.cosine_le_cos offset width side narrow parallels
  rw [← Sphere.angleCosine, ← Sphere.cos_centralAngle] at above below
  have range : centralAngle reference.latitude reference.longitude vertex.latitude
      vertex.longitude ∈ Set.Icc 0 Real.pi :=
    ⟨Sphere.centralAngle_nonneg _ _ _ _, Sphere.centralAngle_le_pi _ _ _ _⟩
  have pi := Real.pi_gt_three
  constructor
  · exact (Real.strictAntiOn_cos.le_iff_ge range ⟨by linarith, by linarith⟩).mp below
  · exact (Real.strictAntiOn_cos.le_iff_ge ⟨by linarith, by linarith⟩ range).mp above

end

/-- Half the side and half the diagonal, as shares of the side. -/
theorem mul_sqrt_two_mem {km : ℝ} (positive : 0 < km) :
    km * √2 ∈ Set.Icc (7071 / 5000 * km) (14143 / 10000 * km) := by
  have low : (7071 / 5000 : ℝ) ≤ √2 := Real.le_sqrt_of_sq_le (by norm_num)
  have high : √2 ≤ (14143 / 10000 : ℝ) := Real.sqrt_le_iff.mpr (by norm_num)
  constructor
  · linarith [mul_le_mul_of_nonneg_left low positive.le]
  · linarith [mul_le_mul_of_nonneg_left high positive.le]

/--
Up to the seventieth parallel and with half a side of at most two hundred kilometres, every
vertex of a square stands more than a quarter of a side from the centre, and half the diagonal
away within a twentieth.
-/
theorem corners_near_half_diagonal {reference : Position ℝ} {km : ℝ}
    (low : |reference.latitude| ≤ 70) (positive : 0 < km) (short : km ≤ 200) :
    (square reference km).length = 5 ∧
    ∀ vertex ∈ square reference km,
      km / 2 < Sphere.distanceBetweenKm reference vertex ∧
      |Sphere.distanceBetweenKm reference vertex - km * √2| ≤ 5 / 100 * (km * √2) := by
  refine ⟨rfl, fun vertex member => ?_⟩
  have isCorner := isCorner_of_mem_square (isSmall_of_le low positive short) vertex member
  obtain ⟨least, most⟩ := isCorner.centralAngle_mem low positive short
  obtain ⟨shortest, longest⟩ := Sphere.radians_latitudeDegrees_mem positive.le
  obtain ⟨diagonalLow, diagonalHigh⟩ := mul_sqrt_two_mem positive
  have distance : Sphere.distanceBetweenKm reference vertex =
      6371 * centralAngle reference.latitude reference.longitude vertex.latitude
        vertex.longitude := Sphere.distanceKm_eq _ _ _ _
  rw [distance, abs_le]
  refine ⟨?_, ?_, ?_⟩ <;> linarith

/-- The north-eastern corner of the largest square about the northernmost centre. -/
theorem corners_near_half_diagonal_northmost :
    |(Position.vertex (70 : ℝ) 180).latitude| ≤ 70 ∧ (0 : ℝ) < 200 ∧ (200 : ℝ) ≤ 200 ∧
    ∃ vertex ∈ square (Position.vertex (70 : ℝ) 180) 200,
      70 < vertex.latitude ∧ 180 < vertex.longitude ∧
      200 / 2 < Sphere.distanceBetweenKm (Position.vertex 70 180) vertex ∧
      |Sphere.distanceBetweenKm (Position.vertex 70 180) vertex - 200 * √2| ≤
        5 / 100 * (200 * √2) := by
  have low : |(Position.vertex (70 : ℝ) 180).latitude| ≤ 70 := by
    change |(70 : ℝ)| ≤ 70
    norm_num
  have positive : (0 : ℝ) < 200 := by norm_num
  have small := isSmall_of_le low positive le_rfl
  have member : Position.vertex (70 + latitudeDegrees 200) (180 +
      latitudeDegrees 200 / Real.cos (radians (70 + latitudeDegrees 200))) ∈
        square (Position.vertex (70 : ℝ) 180) 200 := by
    rw [square_eq small]
    exact List.mem_append_left _ (.tail _ (.tail _ (.head _)))
  obtain ⟨-, corners⟩ := corners_near_half_diagonal low positive le_rfl
  obtain ⟨far, near⟩ := corners _ member
  exact ⟨low, positive, le_rfl, _, member, lt_add_of_pos_right _ small.span_pos,
    lt_add_of_pos_right _ (div_pos small.span_pos (small.cos_corner_pos (Or.inl rfl))), far, near⟩

end Ring

end SpatialWorkload

import SpatialWorkload.Proofs.Scalar.Real
import SpatialWorkload.Sphere.Distance

/-!
# Distances in exact arithmetic

Over the real numbers a distance is the Earth's radius times the central angle, whose
cosine is that of the spherical law of cosines.  A circle is thereby bounded in latitude
by its angle, and in longitude by the sine rule.
-/

namespace SpatialWorkload.Sphere

structure OnGlobe (latitude longitude : ℝ) : Prop where
  south : -90 ≤ latitude
  north : latitude ≤ 90
  west : -180 ≤ longitude
  east : longitude ≤ 180

noncomputable def radians (degrees : ℝ) : ℝ := degrees * (Real.pi / 180)

theorem radians_sub (a b : ℝ) : radians (a - b) = radians a - radians b := by
  unfold radians
  ring

theorem radians_add (a b : ℝ) : radians (a + b) = radians a + radians b := by
  unfold radians
  ring

theorem radians_neg (a : ℝ) : radians (-a) = -radians a :=
  neg_mul a _

theorem radians_mul (a b : ℝ) : radians a * b = radians (a * b) := by
  unfold radians
  ring

@[simp]
theorem radians_le_radians {a b : ℝ} : radians a ≤ radians b ↔ a ≤ b :=
  mul_le_mul_iff_left₀ (by positivity)

@[simp]
theorem radians_lt_radians {a b : ℝ} : radians a < radians b ↔ a < b :=
  mul_lt_mul_iff_left₀ (by positivity)

@[simp]
theorem radians_zero : radians 0 = 0 :=
  zero_mul _

theorem radians_ninety : radians 90 = Real.pi / 2 := by
  unfold radians
  ring

theorem radians_half_turn : radians 180 = Real.pi := by
  unfold radians
  ring

theorem radians_full_turn : radians 360 = 2 * Real.pi := by
  unfold radians
  ring

theorem abs_radians (a : ℝ) : |radians a| = radians |a| := by
  have positive : 0 < Real.pi / 180 := by positivity
  rw [radians, radians, abs_mul, abs_of_pos positive]

theorem abs_radians_latitude_le {latitude : ℝ} (south : -90 ≤ latitude) (north : latitude ≤ 90) :
    |radians latitude| ≤ Real.pi / 2 := by
  rw [abs_radians, ← radians_ninety, radians_le_radians]
  exact abs_le.mpr ⟨south, north⟩

theorem cos_latitude_nonneg {latitude : ℝ} (onGlobe : |latitude| ≤ 90) :
    0 ≤ Real.cos (radians latitude) := by
  obtain ⟨south, north⟩ := abs_le.mp onGlobe
  obtain ⟨low, high⟩ := abs_le.mp (abs_radians_latitude_le south north)
  exact Real.cos_nonneg_of_neg_pi_div_two_le_of_le low high

theorem sin_mul_sin_le (a b : ℝ) : Real.sin a * Real.sin b ≤ |Real.sin a| :=
  calc Real.sin a * Real.sin b
      ≤ |Real.sin a * Real.sin b| := le_abs_self _
    _ = |Real.sin a| * |Real.sin b| := abs_mul _ _
    _ ≤ |Real.sin a| := mul_le_of_le_one_right (abs_nonneg _) (Real.abs_sin_le_one _)

/-- The cosine of the angle between two coordinates, by the spherical law of cosines. -/
noncomputable def angleCosine (latA lonA latB lonB : ℝ) : ℝ :=
  Real.sin (radians latA) * Real.sin (radians latB) +
    Real.cos (radians latA) * Real.cos (radians latB) * Real.cos (radians (lonB - lonA))

theorem haversine_real (latA lonA latB lonB : ℝ) :
    haversine latA lonA latB lonB = (1 - angleCosine latA lonA latB lonB) / 2 := by
  have half (x : ℝ) : Real.sin (x / 2) ^ 2 = (1 - Real.cos x) / 2 := by
    rw [Real.sin_sq_eq_half_sub, mul_div_cancel₀ x two_ne_zero]
    ring
  have shape : haversine latA lonA latB lonB =
      Real.sin (radians (latB - latA) / 2) ^ 2 +
        Real.cos (radians latA) * Real.cos (radians latB) *
          Real.sin (radians (lonB - lonA) / 2) ^ 2 := by
    unfold haversine
    simp only [Scalar.square_real, Scalar.two_real, Scalar.toRadians_real]
    rfl
  rw [shape, half, half, radians_sub latB latA, Real.cos_sub, angleCosine]
  ring

noncomputable def centralAngle (latA lonA latB lonB : ℝ) : ℝ :=
  Real.arccos (angleCosine latA lonA latB lonB)

theorem centralAngle_nonneg (latA lonA latB lonB : ℝ) : 0 ≤ centralAngle latA lonA latB lonB :=
  Real.arccos_nonneg _

theorem centralAngle_le_pi (latA lonA latB lonB : ℝ) :
    centralAngle latA lonA latB lonB ≤ Real.pi :=
  Real.arccos_le_pi _

theorem centralAngle_equator {longitude : ℝ} (east : 0 ≤ longitude) (half : longitude ≤ 180) :
    centralAngle 0 0 0 longitude = radians longitude := by
  have cosine : angleCosine 0 0 0 longitude = Real.cos (radians longitude) := by
    simp [angleCosine]
  have nonneg : 0 ≤ radians longitude := by
    rwa [← radians_zero, radians_le_radians]
  have le_pi : radians longitude ≤ Real.pi := by
    rwa [← radians_half_turn, radians_le_radians]
  rw [centralAngle, cosine, Real.arccos_cos nonneg le_pi]

/-- The identity of Lagrange for the unit vectors of two coordinates. -/
theorem one_sub_angleCosine_sq (latA lonA latB lonB : ℝ) :
    1 - angleCosine latA lonA latB lonB ^ 2 =
      (Real.cos (radians latA) * Real.sin (radians (lonB - lonA))) ^ 2 +
        (Real.sin (radians latA) * Real.cos (radians latB) -
          Real.cos (radians latA) * Real.cos (radians (lonB - lonA)) *
            Real.sin (radians latB)) ^ 2 := by
  rw [angleCosine]
  linear_combination
    -(Real.sin (radians latA) ^ 2 +
      Real.cos (radians latA) ^ 2 * Real.cos (radians (lonB - lonA)) ^ 2) *
        Real.sin_sq_add_cos_sq (radians latB) -
    Real.cos (radians latA) ^ 2 * Real.sin_sq_add_cos_sq (radians (lonB - lonA)) -
    Real.sin_sq_add_cos_sq (radians latA)

theorem abs_angleCosine_le_one (latA lonA latB lonB : ℝ) :
    |angleCosine latA lonA latB lonB| ≤ 1 := by
  rw [← sq_le_one_iff_abs_le_one]
  have square := one_sub_angleCosine_sq latA lonA latB lonB
  nlinarith

theorem cos_centralAngle (latA lonA latB lonB : ℝ) :
    Real.cos (centralAngle latA lonA latB lonB) = angleCosine latA lonA latB lonB := by
  obtain ⟨low, high⟩ := abs_le.mp (abs_angleCosine_le_one latA lonA latB lonB)
  exact Real.cos_arccos low high

/-- The distance is that of the central angle on a sphere of the Earth's radius. -/
theorem distanceKm_eq (latA lonA latB lonB : ℝ) :
    distanceKm latA lonA latB lonB = 6371 * centralAngle latA lonA latB lonB := by
  have cosine := cos_centralAngle latA lonA latB lonB
  have nonneg := centralAngle_nonneg latA lonA latB lonB
  have le_pi := centralAngle_le_pi latA lonA latB lonB
  generalize centralAngle latA lonA latB lonB = angle at cosine nonneg le_pi ⊢
  have half : haversine latA lonA latB lonB = Real.sin (angle / 2) ^ 2 := by
    rw [haversine_real, ← cosine, Real.sin_sq_eq_half_sub, mul_div_cancel₀ angle two_ne_zero]
    ring
  have sine : 0 ≤ Real.sin (angle / 2) :=
    Real.sin_nonneg_of_nonneg_of_le_pi (by linarith) (by linarith)
  have chord : Scalar.min (Scalar.sqrt (haversine latA lonA latB lonB)) Scalar.one =
      Real.sin (angle / 2) := by
    rw [Scalar.min_real, Scalar.one_real, half]
    change min (√(Real.sin (angle / 2) ^ 2)) 1 = _
    rw [Real.sqrt_sq sine]
    exact min_eq_left (Real.sin_le_one _)
  unfold distanceKm
  rw [chord]
  change (6371 : ℝ) * (Scalar.two * Real.arcsin (Real.sin (angle / 2))) = 6371 * angle
  rw [Scalar.two_real, Real.arcsin_sin (by linarith) (by linarith)]
  ring

/-- Of two places the nearer one has the greater cosine. -/
theorem distanceKm_lt_iff {latitude longitude latA lonA latB lonB : ℝ} :
    distanceKm latitude longitude latA lonA < distanceKm latitude longitude latB lonB ↔
      angleCosine latitude longitude latB lonB < angleCosine latitude longitude latA lonA := by
  rw [distanceKm_eq, distanceKm_eq, mul_lt_mul_iff_right₀ (by norm_num)]
  exact Real.strictAntiOn_arccos.lt_iff_gt (abs_le.mp (abs_angleCosine_le_one _ _ _ _))
    (abs_le.mp (abs_angleCosine_le_one _ _ _ _))

/-- The sine rule in the triangle with the pole, as a bound. -/
theorem cos_mul_abs_sin_le (latA lonA latB lonB : ℝ) :
    Real.cos (radians latA) * |Real.sin (radians (lonB - lonA))| ≤
      Real.sin (centralAngle latA lonA latB lonB) := by
  have sine : 0 ≤ Real.sin (centralAngle latA lonA latB lonB) :=
    Real.sin_nonneg_of_nonneg_of_le_pi (centralAngle_nonneg _ _ _ _) (centralAngle_le_pi _ _ _ _)
  have square := one_sub_angleCosine_sq latA lonA latB lonB
  rw [← cos_centralAngle latA lonA latB lonB, ← Real.sin_sq] at square
  refine (abs_le_of_sq_le_sq' ?_ sine).2
  rw [mul_pow, sq_abs, ← mul_pow, square]
  exact le_add_of_nonneg_right (sq_nonneg _)

section

variable {latA lonA latB lonB : ℝ}

theorem distanceKm_real (_ : OnGlobe latA lonA) (_ : OnGlobe latB lonB) :
    distanceKm latA lonA latB lonB = 6371 * centralAngle latA lonA latB lonB :=
  distanceKm_eq latA lonA latB lonB

variable (a : OnGlobe latA lonA) (b : OnGlobe latB lonB)

include a in
theorem OnGlobe.cos_nonneg : 0 ≤ Real.cos (radians latA) :=
  cos_latitude_nonneg (abs_le.mpr ⟨a.south, a.north⟩)

include a b

theorem angleCosine_le : angleCosine latA lonA latB lonB ≤ Real.cos (radians (latB - latA)) := by
  have product := mul_nonneg a.cos_nonneg b.cos_nonneg
  have turn := Real.cos_le_one (radians (lonB - lonA))
  rw [angleCosine, radians_sub latB latA, Real.cos_sub]
  nlinarith

/-- Two coordinates are no closer than their latitudes. -/
theorem abs_latitude_sub_le : |radians (latB - latA)| ≤ centralAngle latA lonA latB lonB := by
  have bound := angleCosine_le a b
  rw [← cos_centralAngle latA lonA latB lonB, ← Real.cos_abs (radians (latB - latA))] at bound
  by_contra! less
  have quarterA := abs_le.mp (abs_radians_latitude_le a.south a.north)
  have quarterB := abs_le.mp (abs_radians_latitude_le b.south b.north)
  have half : |radians (latB - latA)| ≤ Real.pi := by
    rw [radians_sub, abs_le]
    constructor <;> linarith
  have := Real.cos_lt_cos_of_nonneg_of_le_pi (centralAngle_nonneg latA lonA latB lonB) half less
  linarith

/-- A circle that stays off the pole stays on one side of the globe. -/
theorem cos_longitude_pos
    (away : |radians latA| + centralAngle latA lonA latB lonB < Real.pi / 2) :
    0 < Real.cos (radians (lonB - lonA)) := by
  have nonneg := centralAngle_nonneg latA lonA latB lonB
  have cosine := cos_centralAngle latA lonA latB lonB
  have product := mul_nonneg a.cos_nonneg b.cos_nonneg
  have high : Real.sin |radians latA| < Real.cos (centralAngle latA lonA latB lonB) := by
    rw [← Real.cos_pi_div_two_sub]
    refine Real.cos_lt_cos_of_nonneg_of_le_pi nonneg ?_ (by linarith)
    linarith [abs_nonneg (radians latA), Real.pi_pos]
  have sines : Real.sin (radians latA) * Real.sin (radians latB) ≤ Real.sin |radians latA| := by
    have small : |radians latA| ≤ Real.pi := by linarith [Real.pi_pos]
    rw [← Real.abs_sin_eq_sin_abs_of_abs_le_pi small]
    exact sin_mul_sin_le _ _
  rw [cosine, angleCosine] at high
  by_contra! behind
  have := mul_nonpos_of_nonneg_of_nonpos product behind
  linarith

end

end SpatialWorkload.Sphere

import SpatialWorkload.Proofs.Sphere.BoundingBox
import SpatialWorkload.Proofs.GeoSet.Exact

/-!
# Widened radii

An engine with a sphere of its own is asked with a widened radius, and what it finds is
filtered by the common distance.  In exact arithmetic the widened circle holds every position
within the distance, so the filter leaves just these, whatever the size of the sphere.
-/

namespace SpatialWorkload

namespace Sphere

variable {sphereKm latitude longitude km : ℝ} {stored found : List (Position ℝ)}

theorem earthRadiusKm_real : (earthRadiusKm : ℝ) = 6371 :=
  Nat.cast_ofNat

theorem widenRadiusKm_real (km sphereKm : ℝ) :
    widenRadiusKm km sphereKm = km * max (sphereKm / 6371) 1 * (1 + 1 / 10 ^ 6) := by
  unfold widenRadiusKm
  rw [Scalar.max_real, earthRadiusKm_real, Scalar.one_real, Scalar.decimal_real, Nat.cast_one]

/-- What is within a distance is within the widened radius on the other sphere. -/
theorem mul_le_widenRadiusKm {angle : ℝ} (nonneg : 0 ≤ angle) (within : 6371 * angle ≤ km)
    (sphereKm : ℝ) : sphereKm * angle ≤ widenRadiusKm km sphereKm := by
  have kmNonneg : 0 ≤ km := (mul_nonneg (by norm_num) nonneg).trans within
  have ratio : 0 ≤ max (sphereKm / 6371) 1 := zero_le_one.trans (le_max_right _ _)
  rw [widenRadiusKm_real]
  calc sphereKm * angle
      = sphereKm / 6371 * (6371 * angle) := by ring
    _ ≤ max (sphereKm / 6371) 1 * (6371 * angle) := by
        refine mul_le_mul_of_nonneg_right (le_max_left _ _) ?_
        exact mul_nonneg (by norm_num) nonneg
    _ ≤ max (sphereKm / 6371) 1 * km := mul_le_mul_of_nonneg_left within ratio
    _ = km * max (sphereKm / 6371) 1 := mul_comm _ _
    _ ≤ km * max (sphereKm / 6371) 1 * (1 + 1 / 10 ^ 6) :=
        le_mul_of_one_le_right (mul_nonneg kmNonneg ratio) (by norm_num)

/-- Of what lies within the widened radius the filter keeps what lies within the distance. -/
theorem FindsWithin.retain
    (finds : FindsWithin sphereKm latitude longitude (widenRadiusKm km sphereKm) stored found) :
    (retainWithinKm latitude longitude km found).Perm
      (stored.filter (isWithinKm latitude longitude km)) := by
  refine (finds.filter _).trans (List.Perm.of_eq ?_)
  rw [List.filter_filter]
  refine List.filter_congr fun position member => ?_
  rw [Bool.and_eq_left_iff_imp, decide_eq_true_iff]
  intro near
  have within := (Scalar.le_real _ _).mp near
  rw [distanceKm_eq] at within
  exact mul_le_widenRadiusKm (centralAngle_nonneg _ _ _ _) within sphereKm

end Sphere

namespace GeoSet

open Sphere (OnGlobe FindsWithin isWithinKm retainWithinKm widenRadiusKm)

namespace Service

variable {σ : Type} {serve : Service σ} {server : σ} {keys : Keys} {stored : List (Position ℝ)}

/-- A scan within a distance gives what the server holds within it, and changes nothing. -/
theorem Holds.run_within (holds : serve.Holds server keys stored) {table : String}
    (named : Keys.ofTable table = .ok keys) (latitude longitude km : ℝ) :
    ∃ answer, (Session.scan table (.within latitude longitude km)).run serve server =
        (.ok answer, server) ∧
      answer.Perm (stored.filter (isWithinKm latitude longitude km)) := by
  obtain ⟨found, finds, searched⟩ := holds.search longitude latitude
    (widenRadiusKm km Session.nativeRadiusKm)
  have known : found ⊆ stored := fun position member =>
    List.mem_of_mem_filter (finds.mem_iff.mp member)
  refine ⟨retainWithinKm latitude longitude km found, ?_, finds.retain⟩
  have stamped := holds.run_withStamps known
  simp only [Session.scan, named]
  change ((Exchange.send (.search keys longitude latitude _ none)).bind _).run serve server = _
  rw [Exchange.run_bind]
  simp only [Exchange.send, Exchange.run, searched]
  change ((Session.withStamps keys (found.map Hit.ofPosition)).bind _).run serve server = _
  rw [Exchange.run_bind, stamped]
  rfl

end Service

/--
Whatever the sphere of an engine, a widened search and the filter behind it give exactly the
stored positions within the distance, each as often as it is stored and in the engine's order;
for points of the globe that is what a table in memory finds.  In particular a scan of a key
server with an exact search finds them, and comes back.
-/
theorem widened_search_is_exact (latitude longitude km : ℝ) (stored : List (Position ℝ)) :
    (∀ sphereKm found, 0 < sphereKm →
      FindsWithin sphereKm latitude longitude (widenRadiusKm km sphereKm) stored found →
        (retainWithinKm latitude longitude km found).Sublist found ∧
        (retainWithinKm latitude longitude km found).Perm (stored.filter fun position => decide
          (Sphere.distanceKm latitude longitude position.latitude position.longitude ≤ km))) ∧
    (OnGlobe latitude longitude →
      (∀ position ∈ stored, OnGlobe position.latitude position.longitude) →
        (stored.filter fun position => decide
          (Sphere.distanceKm latitude longitude position.latitude position.longitude ≤ km)) =
            Table.within stored latitude longitude km) ∧
    ∀ (σ : Type) (serve : Service σ) (server : σ) (table : String) (keys : Keys),
      Keys.ofTable table = .ok keys → serve.Holds server keys stored →
        ∃ answer, (Session.scan table (.within latitude longitude km)).run serve server =
            (.ok answer, server) ∧
          answer.Perm (stored.filter fun position => decide
            (Sphere.distanceKm latitude longitude position.latitude position.longitude ≤ km)) := by
  refine ⟨fun _ _ _ finds => ⟨List.filter_sublist, finds.retain⟩, ?_, ?_⟩
  · exact fun centre onGlobe => (Table.within_real centre onGlobe km).symm
  · exact fun σ serve server table keys named holds =>
      holds.run_within named latitude longitude km

/-- A position exactly on the circle, which a server with a smaller sphere finds as well. -/
theorem widened_search_is_exact_on_circle :
    let km := 6371 * Sphere.radians 90
    FindsWithin 6000 0 0 (widenRadiusKm km 6000) [equatorial 90] [equatorial 90] ∧
      retainWithinKm 0 0 km [equatorial 90] = [equatorial 90] ∧
      (Session.scan "t" (.within 0 0 km)).run (Service.holding [equatorial 90]) () =
        (.ok [equatorial 90], ()) := by
  intro km
  have angle : Sphere.centralAngle 0 0 0 90 = Sphere.radians 90 :=
    Sphere.centralAngle_equator (by norm_num) (by norm_num)
  have nonneg : 0 ≤ Sphere.radians 90 := angle ▸ Sphere.centralAngle_nonneg _ _ _ _
  have near : ([equatorial 90].filter fun position => decide
      (Sphere.distanceKm 0 0 position.latitude position.longitude ≤ km)) = [equatorial 90] := by
    refine List.filter_eq_self.mpr fun position member => ?_
    rw [List.mem_singleton.mp member, Sphere.distanceKm_eq]
    exact decide_eq_true (angle ▸ le_rfl)
  have finds : FindsWithin 6000 0 0 (widenRadiusKm km 6000) [equatorial 90] [equatorial 90] := by
    refine List.Perm.of_eq (List.filter_eq_self.mpr fun position member => ?_).symm
    rw [List.mem_singleton.mp member]
    exact decide_eq_true (angle ▸ Sphere.mul_le_widenRadiusKm nonneg le_rfl 6000)
  obtain ⟨filtered, -, scanned⟩ := widened_search_is_exact 0 0 km [equatorial 90]
  obtain ⟨answer, ran, same⟩ := scanned Unit (Service.holding [equatorial 90]) () "t" _ rfl
    (Service.holds_holding_equatorial 90 _)
  obtain ⟨-, kept⟩ := filtered 6000 _ (by norm_num) finds
  rw [near] at same kept
  rw [List.perm_singleton.mp same] at ran
  exact ⟨finds, List.perm_singleton.mp kept, ran⟩

end GeoSet

end SpatialWorkload

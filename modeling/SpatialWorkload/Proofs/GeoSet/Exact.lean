import SpatialWorkload.Proofs.GeoSet.Alone
import SpatialWorkload.Proofs.Sphere.Distance
import SpatialWorkload.Proofs.Timestamp.Written

/-!
# Exact servers

In exact arithmetic an engine finds what lies within a radius on its own sphere, in an order
of its own.  A key server that holds positions in this way tells the times of those it finds,
so that a session gets back the positions themselves.
-/

namespace SpatialWorkload

namespace Sphere

/-- Found are the stored positions within a radius on a sphere, each as often as it is stored. -/
def FindsWithin (sphereKm latitude longitude km : ℝ) (stored found : List (Position ℝ)) : Prop :=
  found.Perm (stored.filter fun position => decide
    (sphereKm * centralAngle latitude longitude position.latitude position.longitude ≤ km))

end Sphere

namespace GeoSet

def Hit.ofPosition {α : Type} (position : Position α) : Hit α :=
  ⟨position.id, position.longitude, position.latitude⟩

abbrev Service (σ : Type) : Type :=
  (request : Request ℝ) → σ → Except StoreError request.Reply × σ

def equatorial (longitude : ℝ) : Position ℝ := ⟨"equator", 0, longitude, Timestamp.epoch⟩

namespace Service

variable {σ : Type}

/--
Under the keys of a table the server holds exactly these positions: a search finds those
within the radius on the server's sphere, and the time of each of them can be read.
-/
structure Holds (serve : Service σ) (server : σ) (keys : Keys) (stored : List (Position ℝ)) :
    Prop where
  search : ∀ longitude latitude km, ∃ found,
    Sphere.FindsWithin Session.nativeRadiusKm latitude longitude km stored found ∧
      serve (.search keys longitude latitude km none) server =
        (.ok (found.map Hit.ofPosition), server)
  stamps : ∃ stamp : String → Option String,
    (∀ members, serve (.stamps keys members) server = (.ok (members.map stamp), server)) ∧
    ∀ position ∈ stored, ∃ text, stamp position.id = some text ∧
      Timestamp.read Timestamp.recordLayout text.toList = .ok position.timestamp

variable {serve : Service σ} {server : σ} {keys : Keys} {stored : List (Position ℝ)}

theorem mapM_position (keys : Keys) {stamp : String → Option String} {chosen : List (Position ℝ)}
    (told : ∀ position ∈ chosen, ∃ text, stamp position.id = some text ∧
      Timestamp.read Timestamp.recordLayout text.toList = .ok position.timestamp) :
    (((chosen.map Hit.ofPosition).zip (((chosen.map Hit.ofPosition).map Hit.member).map
      stamp)).mapM fun (hit, stamp) => Session.position keys hit stamp) = .ok chosen := by
  induction chosen with
  | nil => rfl
  | cons first rest ih =>
      obtain ⟨text, stamped, read⟩ := told first List.mem_cons_self
      have whole : Session.position keys (Hit.ofPosition first) (stamp first.id) = .ok first := by
        simp only [Session.position, stamped, read]
        rfl
      have others := ih fun position member => told position (List.mem_cons_of_mem first member)
      rw [List.map_cons, List.map_cons, List.map_cons, List.zip_cons_cons, List.mapM_cons, others]
      exact congrArg (· >>= fun position => Except.ok (position :: rest)) whole

/-- Of what a search finds, a session gets back the positions that it chooses. -/
theorem Holds.run_withStamps (holds : serve.Holds server keys stored)
    {chosen : List (Position ℝ)} (known : chosen ⊆ stored) :
    (Session.withStamps keys (chosen.map Hit.ofPosition)).run serve server =
      (.ok chosen, server) := by
  obtain ⟨stamp, answered, told⟩ := holds.stamps
  have read := mapM_position keys fun position member => told position (known member)
  cases chosen with
  | nil => rfl
  | cons first rest =>
      change ((Exchange.send (.stamps keys _)).bind _).run serve server = _
      rw [Exchange.run_bind]
      have asked := answered (((first :: rest).map Hit.ofPosition).map Hit.member)
      simp only [Exchange.send, Exchange.run, asked]
      exact congrArg (·, server) read

/-- A server that holds certain positions under every name and takes no others. -/
noncomputable def holding (stored : List (Position ℝ)) : Service Unit
  | .delete _, server => (.ok (), server)
  | .add .., server => (.ok ((0 : Int), (0 : Int)), server)
  | .withdraw .., server => (.ok (0 : Int), server)
  | .search _ longitude latitude km _, server =>
      (.ok ((stored.filter fun position => decide (Session.nativeRadiusKm *
        Sphere.centralAngle latitude longitude position.latitude position.longitude ≤ km)).map
          Hit.ofPosition), server)
  | .stamps _ members, server =>
      (.ok (members.map fun member => (stored.find? (·.id == member)).map fun position =>
        Timestamp.write Timestamp.recordLayout position.timestamp), server)

/-- Such a server, where the identities are distinct and the times are whole seconds. -/
theorem holds_holding {stored : List (Position ℝ)}
    (found : ∀ position ∈ stored, stored.find? (·.id == position.id) = some position)
    (whole : ∀ position ∈ stored, position.timestamp.fields.nanosecond = 0) (keys : Keys) :
    (holding stored).Holds () keys stored where
  search longitude latitude km := ⟨_, List.Perm.refl _, rfl⟩
  stamps := by
    refine ⟨_, fun members => rfl, fun position member => ?_⟩
    exact ⟨_, by rw [found position member]; rfl,
      Timestamp.read_write_recordLayout (whole position member)⟩

theorem holds_holding_equatorial (longitude : ℝ) (keys : Keys) :
    (holding [equatorial longitude]).Holds () keys [equatorial longitude] := by
  apply holds_holding
  · intro position member
    rw [List.mem_singleton.mp member]
    exact List.find?_cons_of_pos (beq_self_eq_true _)
  · intro position member
    rw [List.mem_singleton.mp member]
    rfl

end Service

end GeoSet

end SpatialWorkload

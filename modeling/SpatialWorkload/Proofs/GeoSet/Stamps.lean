import SpatialWorkload.Proofs.GeoSet.Guard
import SpatialWorkload.Proofs.Timestamp.Written

/-!
# Times of members

An insert stores the text of a timestamp, and every scan reads the text again.  Texts of whole
seconds are read as what they were written of, so that a scan tells the time that was inserted.
-/

namespace SpatialWorkload.GeoSet

section Kept

variable {finder : Finder} {table key : String} {keys : Keys} {position : Position Float}
  {server : Server}

namespace Server

/-- An insert that ends well was let through, with a place on the map. -/
theorem isOnMap_of_ok (named : Keys.ofTable table = .ok keys)
    (ended : ((Session.insert table key position).run (hold finder .answered) server).1 =
      .ok ()) :
    (Session.placeOf position).IsOnMap := by
  cases checked : checkIndexable key position with
  | error cause =>
      have refused : ((Keys.ofTable table).bind fun _ => checkIndexable key position) =
          .error cause := by
        rw [named]
        exact checked
      rw [Session.insert_eq_done refused] at ended
      cases ended
  | ok done =>
      by_contra offMap
      rw [run_insert_unplaced named checked offMap] at ended
      cases ended

/-- An insert that ends well leaves the text of the time with its member. -/
theorem hashes_of_ok (named : Keys.ofTable table = .ok keys)
    (ended : ((Session.insert table key position).run (hold finder .answered) server).1 =
      .ok ()) :
    ((Session.insert table key position).run (hold finder .answered) server).2.hashes
      keys.time key = some (Session.stampOf position) := by
  have onMap := isOnMap_of_ok named ended
  have whole := Session.isWhole_insert named onMap finder .answered key server
  obtain ⟨noPlace, noTime⟩ := whole.ok_iff.mp ended
  rw [run_insert_new finder .answered named onMap noPlace noTime]
  simp [setTime]

end Server

end Kept

namespace Session

theorem position_of_read {α : Type} (keys : Keys) (hit : Hit α) {text : String}
    {stamp : Timestamp}
    (told : Timestamp.read Timestamp.recordLayout text.toList = .ok stamp) :
    position keys hit (some text) = .ok ⟨hit.member, hit.latitude, hit.longitude, stamp⟩ := by
  rw [position, told]

theorem mapM_zip_map {α β : Type} (tell : Hit α → Option String → Except StoreError β)
    (stamp : Hit α → Option String) (hits : List (Hit α)) :
    ((hits.zip (hits.map stamp)).mapM fun (hit, stamp) => tell hit stamp) =
      hits.mapM fun hit => tell hit (stamp hit) := by
  induction hits with
  | nil => rfl
  | cons hit hits ih =>
      rw [List.map_cons, List.zip_cons_cons, List.mapM_cons, List.mapM_cons, ih]

/-- Every hit is told with the time that the server holds. -/
theorem run_withStamps (finder : Finder) (undo : Delivery) (keys : Keys)
    (hits : List (Hit Float)) (server : Server) :
    (withStamps keys hits).run (Server.hold finder undo) server =
      (hits.mapM fun hit => position keys hit (server.hashes keys.time hit.member), server) := by
  cases hits with
  | nil => rfl
  | cons hit hits =>
      have members : ((hit :: hits).map Hit.member).map (server.hashes keys.time) =
          (hit :: hits).map fun hit => server.hashes keys.time hit.member :=
        List.map_map
      rw [← mapM_zip_map, ← members]
      rfl

/--
A timestamp of whole seconds is read back from what is written of it, whatever its year and
also in a leap second, so that writing it again gives the same text.  Whoever finds a member
after an insert of it that ended well is told the time that was inserted.
-/
theorem written_time_is_told (stamp : Timestamp) (whole : stamp.fields.nanosecond = 0) :
    let text := Timestamp.write Timestamp.recordLayout stamp
    Timestamp.read Timestamp.recordLayout text.toList = .ok stamp ∧
    (Timestamp.read Timestamp.recordLayout text.toList).map
      (Timestamp.write Timestamp.recordLayout) = .ok text ∧
    ∀ (finder : Finder) (table key : String) (keys : Keys) (latitude longitude : Float)
      (server : Server), Keys.ofTable table = .ok keys →
      let ran := (insert table key ⟨key, latitude, longitude, stamp⟩).run
        (Server.hold finder .answered) server
      ran.1 = .ok () → ∀ hit : Hit Float, hit.member = key →
        (withStamps keys [hit]).run (Server.hold finder .answered) ran.2 =
          (.ok [⟨key, hit.latitude, hit.longitude, stamp⟩], ran.2) := by
  intro text
  have told := Timestamp.read_write_recordLayout whole
  refine ⟨told, ?_, ?_⟩
  · rw [told]
    rfl
  · intro finder table key keys latitude longitude server named ran ended hit same
    have kept : ran.2.hashes keys.time key = some text := Server.hashes_of_ok named ended
    rw [run_withStamps, List.mapM_cons, same, kept, position_of_read keys hit told, same]
    rfl

/-- The last second of a year before the common era, a leap second. -/
theorem written_time_is_told_before_era :
    let stamp : Timestamp := ⟨⟨-5, 12, 31, 23, 59, 60, 0⟩, by decide⟩
    let keys : Keys := ⟨"T:location", "T:time"⟩
    let ran := (insert "T" "a" ⟨"a", 39.9, 116.4, stamp⟩).run
      (Server.hold (.ofMember "a") .answered) .empty
    Timestamp.write Timestamp.recordLayout stamp = "-0005-12-31 23:59:60" ∧
    Timestamp.read Timestamp.recordLayout "-0005-12-31 23:59:60".toList = .ok stamp ∧
    (withStamps keys [⟨"a", 116.4, 39.9⟩]).run (Server.hold (.ofMember "a") .answered) ran.2 =
      (.ok [⟨"a", 39.9, 116.4, stamp⟩], ran.2) := by
  intro stamp keys ran
  have ended : ran.1 = .ok () := by
    have onMap : (placeOf ⟨"a", 39.9, 116.4, stamp⟩).IsOnMap := by decide +kernel
    exact congrArg Prod.fst (Server.run_insert_new _ _ rfl onMap rfl rfl)
  have written : Timestamp.write Timestamp.recordLayout stamp = "-0005-12-31 23:59:60" := by
    decide +kernel
  obtain ⟨told, -, found⟩ := written_time_is_told stamp rfl
  refine ⟨written, written ▸ told, ?_⟩
  exact found (.ofMember "a") "T" "a" keys 39.9 116.4 .empty rfl ended ⟨"a", 116.4, 39.9⟩ rfl

end Session

end SpatialWorkload.GeoSet

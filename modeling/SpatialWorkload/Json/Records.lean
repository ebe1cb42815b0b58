import SpatialWorkload.Json.Layout
import SpatialWorkload.Position
import SpatialWorkload.Run.Tally
import SpatialWorkload.Timestamp.Layout

/-!
# Records in JSON

Positions and tallies as JSON records, with the names of their fields in order.
-/

namespace SpatialWorkload.Json

def timestamp? (json : Json) : Option Timestamp := do
  (Timestamp.read Timestamp.isoLayout (← json.string?).toList).toOption

def position? (json : Json) : Option (Position Float) := do
  match ← json.fields? ["id", "latitude", "longitude", "timestamp"] with
  | [id, latitude, longitude, timestamp] =>
      return ⟨← id.string?, ← latitude.float?, ← longitude.float?, ← timestamp.timestamp?⟩
  | _ => none

def count? (json : Json) : Option Count := do
  match ← json.fields? ["success", "failure"] with
  | [success, failure] => return ⟨← success.word?, ← failure.word?⟩
  | _ => none

def tally? (json : Json) : Option Tally := do
  match ← json.fields? ["insert", "scan_knn", "scan_by_distance", "scan_by_polygon",
      "resets", "insert_retries", "abandoned_inserts"] with
  | [insert, knn, distance, polygon, resets, retries, abandoned] =>
      return ⟨← insert.count?, ← knn.count?, ← distance.count?, ← polygon.count?,
        ← resets.word?, ← retries.word?, ← abandoned.word?⟩
  | _ => none

def ofCount (count : Count) : Json :=
  ofMembers [("success", ofNat count.success.toNat), ("failure", ofNat count.failure.toNat)]

def ofTally (tally : Tally) : Json :=
  ofMembers [("insert", ofCount tally.insert), ("scan_knn", ofCount tally.knn),
    ("scan_by_distance", ofCount tally.distance), ("scan_by_polygon", ofCount tally.polygon),
    ("resets", ofNat tally.resets.toNat), ("insert_retries", ofNat tally.insertRetries.toNat),
    ("abandoned_inserts", ofNat tally.abandonedInserts.toNat)]

end SpatialWorkload.Json

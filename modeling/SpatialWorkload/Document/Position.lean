import SpatialWorkload.Document.Value
import SpatialWorkload.Ring.Basic
import SpatialWorkload.Scalar.Double
import SpatialWorkload.Store.Basic
import SpatialWorkload.Timestamp.Epoch

/-!
# Documents of positions

A position is a document with its key, its place as a GeoJSON point and its time.  GeoJSON
puts longitude before latitude.
-/

namespace SpatialWorkload.Document

def ofPoint (latitude longitude : Float) : Document :=
  [("type", .text "Point"), ("coordinates", .array [.double longitude, .double latitude])]

/-- A ring is one closed line of a polygon without holes. -/
def ofRing (ring : Ring Float) : Document :=
  let line := (Ring.closedCoordinates ring).map fun (longitude, latitude) =>
    DocumentValue.array [.double longitude, .double latitude]
  [("type", .text "Polygon"), ("coordinates", .array [.array line])]

/-- The key is also the identity by which the database refuses repetitions. -/
def ofPosition (key : String) (position : Position Float) : Document :=
  [("_id", .text key), ("id", .text key),
    ("location", .object (ofPoint position.latitude position.longitude)),
    ("time_of_record", .millis position.timestamp.toMillis)]

def coordinate (id : String) (items : List DocumentValue) (index : Nat) :
    Except DocumentError Float :=
  match items[index]?.bind DocumentValue.double? with
  | some value => .ok value
  | none => .error (.badCoordinates id)

/-- The position of a document; values that say nothing about it are passed over. -/
def toPosition (document : Document) : Except DocumentError (Position Float) := do
  let id ← read DocumentValue.text? document "id"
  let location ← read DocumentValue.object? document "location"
  let items ← read DocumentValue.array? location "coordinates"
  let longitude ← coordinate id items 0
  let latitude ← coordinate id items 1
  let millis ← read DocumentValue.millis? document "time_of_record"
  match Timestamp.ofMillis? millis with
  | some timestamp => return ⟨id, latitude, longitude, timestamp⟩
  | none => .error (.badTime id)

/-- A document that cannot be read is an outcome that should not occur. -/
def readPosition (document : Document) : Except StoreError (Position Float) :=
  (toPosition document).mapError fun error => .unexpectedState error.message

end SpatialWorkload.Document

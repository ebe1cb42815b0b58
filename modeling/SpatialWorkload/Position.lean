import SpatialWorkload.Scalar
import SpatialWorkload.Timestamp

/-!
# Positions

One observed position: who was seen, where, and when.  Latitude and longitude are degrees.
-/

namespace SpatialWorkload

structure Position (α : Type) where
  id : String
  latitude : α
  longitude : α
  timestamp : Timestamp

namespace Position

variable {α : Type}

/-- A bare coordinate, without a name or a time of its own. -/
def vertex (latitude longitude : α) : Position α :=
  ⟨"", latitude, longitude, Timestamp.epoch⟩

def sameCoordinate [Scalar α] (first second : Position α) : Bool :=
  Scalar.same first.latitude second.latitude && Scalar.same first.longitude second.longitude

/-- The same record in every part. -/
def same [Scalar α] (first second : Position α) : Bool :=
  first.id == second.id && first.sameCoordinate second &&
    decide (first.timestamp = second.timestamp)

end Position

/-- A list of vertices; its last one may repeat the first. -/
abbrev Ring (α : Type) := List (Position α)

end SpatialWorkload

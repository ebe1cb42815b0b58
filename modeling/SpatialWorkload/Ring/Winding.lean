import SpatialWorkload.Position

/-!
# Winding numbers

Whether a ring contains a point, by the number of times it winds round it.  Longitude is
the abscissa and latitude the ordinate.  An edge counts when it crosses the point's
latitude to the point's right; lower and left edges belong to the inside, upper and right
edges to the outside.
-/

namespace SpatialWorkload.Ring

variable {α : Type} [Scalar α]

/-- Positive where the point is left of the directed edge, negative where it is right of it. -/
def sideOf (start finish : Position α) (latitude longitude : α) : α :=
  (finish.longitude - start.longitude) * (latitude - start.latitude) -
    (longitude - start.longitude) * (finish.latitude - start.latitude)

def crossing (latitude longitude : α) (start finish : Position α) : Int :=
  let side := sideOf start finish latitude longitude
  if Scalar.le start.latitude latitude then
    if Scalar.lt latitude finish.latitude && Scalar.lt Scalar.zero side then 1 else 0
  else if Scalar.le finish.latitude latitude && Scalar.lt side Scalar.zero then -1
  else 0

/-- The crossings along an open path from a vertex through the others to an end. -/
def pathWinding (latitude longitude : α) (finish : Position α) : Position α → Ring α → Int
  | start, [] => crossing latitude longitude start finish
  | start, next :: rest =>
      crossing latitude longitude start next + pathWinding latitude longitude finish next rest

def winding (latitude longitude : α) : Ring α → Int
  | [] => 0
  | first :: rest => pathWinding latitude longitude first first rest

/-- A ring of fewer than three vertices contains nothing. -/
def contains (ring : Ring α) (latitude longitude : α) : Bool :=
  decide (3 ≤ ring.length) && winding latitude longitude ring != 0

end SpatialWorkload.Ring

import SpatialWorkload.Sphere.BoundingBox

/-!
# Rings

The closing vertex of a ring, its bounds, and a circle that covers it.
-/

namespace SpatialWorkload.Ring

variable {α : Type} [Scalar α]

/-- The ring without the vertex that repeats its first one. -/
def openRing (ring : Ring α) : Ring α :=
  match ring with
  | first :: second :: rest =>
      if first.sameCoordinate ((second :: rest).getLastD second) then
        (first :: second :: rest).dropLast
      else first :: second :: rest
  | short => short

def bounds (ring : Ring α) : Option (BoundingBox α) :=
  match ring with
  | [] => none
  | first :: rest =>
      some ((first :: rest).foldl BoundingBox.extend (BoundingBox.ofPosition first))

def mean (values : List α) : α :=
  values.foldl (· + ·) Scalar.zero / Scalar.ofNat values.length

/-- A centre and a radius in kilometres. -/
structure Circle (α : Type) where
  latitude : α
  longitude : α
  radiusKm : α

/-- The circle about the mean of the vertices that reaches the farthest of them. -/
def enclosingCircle (ring : Ring α) : Option (Circle α) :=
  let vertices := openRing ring
  if vertices.isEmpty then none
  else
    let latitude := mean (vertices.map Position.latitude)
    let longitude := mean (vertices.map Position.longitude)
    let distances := vertices.map fun vertex =>
      Sphere.distanceKm latitude longitude vertex.latitude vertex.longitude
    let farthest := distances.foldl Scalar.max Scalar.zero
    some ⟨latitude, longitude, farthest * Scalar.decimal 101 2⟩

/-- The vertices as pairs of longitude and latitude, the first repeated at the end. -/
def closedCoordinates (ring : Ring α) : List (α × α) :=
  let pairs := (openRing ring).map fun vertex => (vertex.longitude, vertex.latitude)
  pairs ++ pairs.head?.toList

def wellKnownText (write : α → String) (ring : Ring α) : String :=
  let texts := (openRing ring).map fun vertex =>
    s!"{write vertex.longitude} {write vertex.latitude}"
  let vertices := ", ".intercalate (texts ++ texts.head?.toList)
  s!"POLYGON(({vertices}))"

end SpatialWorkload.Ring

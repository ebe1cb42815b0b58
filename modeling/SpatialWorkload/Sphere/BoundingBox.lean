import SpatialWorkload.Sphere.Distance

/-!
# Bounding boxes

Boxes of latitude and longitude.  Longitude bounds may run past 180 degrees; such a box
wraps round the antimeridian.
-/

namespace SpatialWorkload

structure BoundingBox (α : Type) where
  minLatitude : α
  maxLatitude : α
  minLongitude : α
  maxLongitude : α

namespace BoundingBox

variable {α : Type} [Scalar α]

def spansLongitude (box : BoundingBox α) (longitude : α) : Bool :=
  Scalar.le box.minLongitude longitude && Scalar.le longitude box.maxLongitude

/-- A longitude lies in the box if it does so after some turn of the globe. -/
def contains (box : BoundingBox α) (latitude longitude : α) : Bool :=
  if Scalar.lt latitude box.minLatitude || Scalar.lt box.maxLatitude latitude then false
  else
    box.spansLongitude longitude || box.spansLongitude (longitude - Scalar.ofNat 360) ||
      box.spansLongitude (longitude + Scalar.ofNat 360)

/--
The degree envelope of a circle, on the large side: one part in a hundred is added, and
the longitude span is taken at the latitude farthest from the equator.  A box that comes
near a pole spans all longitudes.
-/
def around (latitude longitude km : α) : BoundingBox α :=
  let margin := Scalar.decimal 101 2
  let latitudeSpan := Sphere.latitudeDegrees km * margin
  let minLatitude := Scalar.max (latitude - latitudeSpan) (-(Scalar.ofNat 90))
  let maxLatitude := Scalar.min (latitude + latitudeSpan) (Scalar.ofNat 90)
  let widest := Scalar.max (Scalar.abs minLatitude) (Scalar.abs maxLatitude)
  let everywhere := ⟨minLatitude, maxLatitude, -(Scalar.ofNat 180), Scalar.ofNat 180⟩
  if Scalar.le Sphere.steepestLatitude widest then everywhere
  else
    let longitudeSpan := Sphere.longitudeDegrees km widest * margin
    if Scalar.le (Scalar.ofNat 180) longitudeSpan then everywhere
    else ⟨minLatitude, maxLatitude, longitude - longitudeSpan, longitude + longitudeSpan⟩

def extend (box : BoundingBox α) (position : Position α) : BoundingBox α :=
  { minLatitude := Scalar.min box.minLatitude position.latitude
    maxLatitude := Scalar.max box.maxLatitude position.latitude
    minLongitude := Scalar.min box.minLongitude position.longitude
    maxLongitude := Scalar.max box.maxLongitude position.longitude }

def ofPosition (position : Position α) : BoundingBox α :=
  ⟨position.latitude, position.latitude, position.longitude, position.longitude⟩

end BoundingBox

end SpatialWorkload

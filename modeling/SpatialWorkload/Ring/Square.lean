import SpatialWorkload.Sphere.Distance

/-!
# Squares about a position

The query polygon of a workload: a closed ring whose corners stand a given distance north
or south and east or west of a position.
-/

namespace SpatialWorkload.Ring

variable {α : Type} [Scalar α]

/-- A corner's east or west offset is converted at the corner's own latitude. -/
def corner (longitude offsetKm latitude : α) (east : Bool) : Position α :=
  let span := Sphere.longitudeDegrees offsetKm latitude
  Position.vertex latitude (if east then longitude + span else longitude - span)

/--
Counter-clockwise from the south-west corner, which is repeated at the end.  Corners keep
away from the poles.
-/
def square (reference : Position α) (offsetKm : α) : Ring α :=
  let span := Sphere.latitudeDegrees offsetKm
  let south := Scalar.max (reference.latitude - span) (-Sphere.steepestLatitude)
  let north := Scalar.min (reference.latitude + span) Sphere.steepestLatitude
  let place := corner reference.longitude offsetKm
  [place south false, place south true, place north true, place north false, place south false]

end SpatialWorkload.Ring

import SpatialWorkload.Position

/-!
# Distances on the sphere

Every distance is a great-circle distance in kilometres on one sphere.  An engine that
measures on a sphere of its own is asked with a widened radius, and its answer is filtered
again by the common distance.
-/

namespace SpatialWorkload.Sphere

variable {α : Type} [Scalar α]

def earthRadiusKm : α := Scalar.ofNat 6371

/-- Kilometres in one degree of latitude, read off a flat Earth. -/
def kmPerDegree : α := Scalar.decimal 11132 2

/-- Nearer to a pole than this, a degree of longitude is not corrected further. -/
def steepestLatitude : α := Scalar.decimal 899 1

def haversine (latA lonA latB lonB : α) : α :=
  let latitudePart := Scalar.sin (Scalar.toRadians (latB - latA) / Scalar.two)
  let longitudePart := Scalar.sin (Scalar.toRadians (lonB - lonA) / Scalar.two)
  Scalar.square latitudePart +
    Scalar.cos (Scalar.toRadians latA) * Scalar.cos (Scalar.toRadians latB) *
      Scalar.square longitudePart

/-- The clamp takes back a rounding above one, as it occurs between antipodes. -/
def distanceKm (latA lonA latB lonB : α) : α :=
  let halfChord := Scalar.min (Scalar.sqrt (haversine latA lonA latB lonB)) Scalar.one
  earthRadiusKm * (Scalar.two * Scalar.arcsin halfChord)

def distanceBetweenKm (a b : Position α) : α :=
  distanceKm a.latitude a.longitude b.latitude b.longitude

def latitudeDegrees (km : α) : α := km / kmPerDegree

def longitudeDegrees (km latitude : α) : α :=
  let bounded := Scalar.clamp latitude (-steepestLatitude) steepestLatitude
  km / (kmPerDegree * Scalar.cos (Scalar.toRadians bounded))

/-- A radius wide enough for an engine whose sphere has the radius `nativeRadiusKm`. -/
def widenRadiusKm (km nativeRadiusKm : α) : α :=
  km * Scalar.max (nativeRadiusKm / earthRadiusKm) Scalar.one * (Scalar.one + Scalar.decimal 1 6)

def isWithinKm (latitude longitude km : α) (position : Position α) : Bool :=
  Scalar.le (distanceKm latitude longitude position.latitude position.longitude) km

def retainWithinKm (latitude longitude km : α) (positions : List (Position α)) :
    List (Position α) :=
  positions.filter (isWithinKm latitude longitude km)

end SpatialWorkload.Sphere

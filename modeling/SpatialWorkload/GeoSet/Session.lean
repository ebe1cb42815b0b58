import SpatialWorkload.GeoSet.Request
import SpatialWorkload.Ring.Basic
import SpatialWorkload.Ring.Winding
import SpatialWorkload.Scalar.Double
import SpatialWorkload.Text.Quoted
import SpatialWorkload.Timestamp.Layout

/-!
# Sessions with a key server

The calls of a backend as conversations with a server that keeps a geo set and a hash for
each table.  The server measures on a sphere of its own and knows no polygons, so it is
asked for too much and the answer is filtered.
-/

namespace SpatialWorkload.GeoSet

/-- The server cannot place latitudes beyond the limit of the square world map. -/
def steepestIndexed : Float := 85.05112878

def checkIndexable (key : String) (position : Position Float) : Except StoreError Unit :=
  if steepestIndexed < position.latitude.abs ∨ 180 < position.longitude.abs then
    let latitude := Decimal.text position.latitude
    let longitude := Decimal.text position.longitude
    .error (.backend s!"redis cannot index {key} at ({latitude}, {longitude})")
  else .ok ()

namespace Session

def reset (table : String) : Exchange Float Unit := do
  let keys ← Exchange.done (Keys.ofTable table)
  Exchange.send (.delete keys)

/--
Adds both halves of a position.  Where only one of them was missing, the one that went in
is taken out again.
-/
def insert (table key : String) (position : Position Float) : Exchange Float Unit := do
  let keys ← Exchange.done (Keys.ofTable table)
  Exchange.done (checkIndexable key position)
  let stamp := Timestamp.write Timestamp.recordLayout position.timestamp
  let (added, stamped) ← Exchange.send
    (.add keys position.longitude position.latitude key stamp)
  if added ≠ stamped then
    let half := if added = 1 then Half.location else Half.time
    let _ ← Exchange.send (.withdraw half keys key)
  if added = 1 ∧ stamped = 1 then Exchange.done (.ok ())
  else
    Exchange.done (.error (.unexpectedState
      s!"insert of {key} added {added} locations and {stamped} timestamps"))

variable {α : Type}

def position (keys : Keys) (hit : Hit α) : Option String → Except StoreError (Position α)
  | none => .error (.unexpectedState s!"redis: {hit.member} has no timestamp in {keys.time}")
  | some text =>
      match Timestamp.read Timestamp.recordLayout text.toList with
      | .ok timestamp => .ok ⟨hit.member, hit.latitude, hit.longitude, timestamp⟩
      | .error reason =>
          let shown := Text.quote text
          .error (.unexpectedState
            s!"redis: bad timestamp {shown} for {hit.member}: {reason.message}")

/-- Asks for the times of what was found; nothing is asked where nothing was found. -/
def withStamps (keys : Keys) (hits : List (Hit α)) : Exchange α (List (Position α)) :=
  if hits.isEmpty then pure []
  else do
    let stamps ← Exchange.send (.stamps keys (hits.map Hit.member))
    Exchange.done ((hits.zip stamps).mapM fun (hit, stamp) => position keys hit stamp)

variable [Scalar α]

def nativeRadiusKm : α := Scalar.decimal 6372797560856 9

/-- No two places on the server's sphere are farther apart. -/
def wholePlanetKm : α := Scalar.ofNat 20100

def scan (table : String) : Query α → Exchange α (List (Position α))
  | .nearest latitude longitude count =>
      if count = 0 then pure []
      else do
        let keys ← Exchange.done (Keys.ofTable table)
        let hits ← Exchange.send (.search keys longitude latitude wholePlanetKm (some count))
        withStamps keys hits
  | .within latitude longitude km => do
      let keys ← Exchange.done (Keys.ofTable table)
      let radius := Sphere.widenRadiusKm km nativeRadiusKm
      let hits ← Exchange.send (.search keys longitude latitude radius none)
      let positions ← withStamps keys hits
      pure (Sphere.retainWithinKm latitude longitude km positions)
  | .inside ring =>
      let vertices := Ring.openRing ring
      if vertices.length < 3 then pure []
      else
        match Ring.enclosingCircle vertices with
        | none => pure []
        | some circle => do
            let keys ← Exchange.done (Keys.ofTable table)
            let radius := Sphere.widenRadiusKm circle.radiusKm nativeRadiusKm
            let hits ← Exchange.send
              (.search keys circle.longitude circle.latitude radius none)
            withStamps keys
              (hits.filter fun hit => Ring.contains vertices hit.latitude hit.longitude)

end Session

end SpatialWorkload.GeoSet

import SpatialWorkload.Dataset
import SpatialWorkload.Draw.Choice
import SpatialWorkload.Draw.Key
import SpatialWorkload.Ring.Square
import SpatialWorkload.Run.Cursor
import SpatialWorkload.Run.ResetGate
import SpatialWorkload.Run.Tally
import SpatialWorkload.Run.Watermark

/-!
# Workloads

A workload is a configuration made ready for a dataset: the insert range is resolved and
every random choice has its law.  What the workers of a run change together is kept apart
from it.
-/

namespace SpatialWorkload

structure Workload where
  config : Config
  dataset : Dataset
  insertStart : UInt64
  insertCount : UInt64
  chooser : ScanChooser
  keys : KeyChooser
  neighbours : UniformRange
  distanceKm : UniformRange
  polygonKm : UniformRange

/-- What all workers of a run share. -/
structure Shared where
  cursor : Cursor
  acknowledged : Watermark
  gate : ResetGate
  tally : Tally
  deriving DecidableEq, Repr

namespace Workload

/-- The laws of the random choices, in the order in which they are set up. -/
def prepare (config : Config) (dataset : Dataset) : Except (Stop ConfigError) Workload := do
  let (insertStart, insertCount) ← orStop (config.resolveInsertRange dataset.size)
  let some chooser := ScanChooser.ofMix? config.mix | .error .aborted
  let keys ← orStop (KeyChooser.ofLaw config.keyLaw insertStart insertCount)
  let some neighbours := UniformRange.ofRange? config.neighbours | .error .aborted
  let some distanceKm := UniformRange.ofRange? config.distanceKm | .error .aborted
  let some polygonKm := UniformRange.ofRange? config.polygonKm | .error .aborted
  return { config, dataset, insertStart, insertCount, chooser, keys, neighbours, distanceKm,
           polygonKm }

/-- Before the first call: nothing taken, and acknowledged only what was loaded before. -/
def initialShared (workload : Workload) : Shared where
  cursor := Cursor.ofRange workload.insertStart workload.insertCount
  acknowledged :=
    if workload.config.preloaded then
      Watermark.preloaded workload.insertStart workload.insertCount
    else Watermark.ofStart workload.insertStart
  gate := ResetGate.fresh
  tally := Tally.zero

/-- A run of scans needs a scan of positive weight. -/
def checkRunnable (workload : Workload) : Except ConfigError Unit :=
  if workload.chooser.isEmpty then .error .noScanEnabled else .ok ()

/-- The query of a scan about a reference record, with its parameter drawn. -/
def drawQuery (workload : Workload) (kind : ScanKind) (reference : Position Float)
    (words : Words) : Query Float × Words :=
  match kind with
  | .knn =>
      let (count, rest) := workload.neighbours.sample words
      (.nearest reference.latitude reference.longitude count.toNat, rest)
  | .distance =>
      let (km, rest) := workload.distanceKm.sample words
      (.within reference.latitude reference.longitude km.toFloat, rest)
  | .polygon =>
      let (km, rest) := workload.polygonKm.sample words
      (.inside (Ring.square reference km.toFloat), rest)

theorem drawQuery_kind (workload : Workload) (kind : ScanKind) (reference : Position Float)
    (words : Words) : (workload.drawQuery kind reference words).1.kind = kind := by
  cases kind <;> rfl

/-- The pause before a retry: the configured interval, a fifth longer or shorter at most. -/
def drawPause (workload : Workload) (words : Words) : Option Duration × Words :=
  let (factor, rest) := words.factorBetween 0.8 1.2
  (workload.config.retryInterval.scale? factor, rest)

end Workload

end SpatialWorkload

import SpatialWorkload.Config.Error
import SpatialWorkload.Duration

/-!
# Configuration

What a run of the workload is told: which table, which records, which mix of scans with
which parameters, how often to retry, and where the data and the backend are.
-/

namespace SpatialWorkload

/-- An inclusive range of whole parameters. -/
structure Range where
  min : UInt64
  max : UInt64
  deriving DecidableEq, Repr

/-- Relative weights of the three scans; a weight of zero disables its scan. -/
structure ScanMix where
  knn : Float
  distance : Float
  polygon : Float
  deriving DecidableEq, Repr

/-- How the reference record of a scan is chosen among the acknowledged ones. -/
inductive KeyLaw where
  | uniform
  /-- The given percentile of the keys falls into the newest fraction of the range. -/
  | exponential (percentile fraction : Float)
  deriving DecidableEq, Repr

structure Config where
  table : String
  /-- Zero stands for as many records as the dataset holds. -/
  recordCount : UInt64
  insertStart : UInt64
  /-- Open until the length of the dataset is known. -/
  insertCount : Option UInt64
  mix : ScanMix
  neighbours : Range
  distanceKm : Range
  polygonKm : Range
  retryLimit : UInt32
  retryInterval : Duration
  keyLaw : KeyLaw
  /-- The insert range was loaded before this run. -/
  preloaded : Bool
  datasetPath : Option String
  skipMalformed : Bool
  backend : String
  threadCount : UInt64
  operationCount : UInt64

namespace Config

def loadLimit (config : Config) : Option Nat :=
  if config.recordCount = 0 then none else some config.recordCount.toNat

/--
The insert range as start and count, once the length of the dataset is known.  It is not
empty and ends within the dataset.
-/
def resolveInsertRange (config : Config) (datasetLength : Nat) :
    Except ConfigError (UInt64 × UInt64) :=
  let count := match config.insertCount with
    | some count => count
    | none => UInt64.ofNat (datasetLength - config.insertStart.toNat)
  let finish := config.insertStart.toNat + count.toNat
  if count = 0 then .error .emptyInsertRange
  else if UInt64.size ≤ finish then .error .insertEndOverflows
  else if datasetLength < finish then .error (.datasetTooShort datasetLength finish)
  else .ok (config.insertStart, count)

end Config

end SpatialWorkload

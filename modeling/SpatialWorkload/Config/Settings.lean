import SpatialWorkload.Config
import SpatialWorkload.Failure
import SpatialWorkload.Properties.Typed

/-!
# Settings of a configuration

Reads a configuration from properties.  The settings are checked in a fixed order, and of
several faults the first one in that order is reported.
-/

namespace SpatialWorkload

namespace Key

def table := "table"
def recordCount := "recordcount"
def insertStart := "insertstart"
def insertCount := "insertcount"
def knnWeight := "scanknnproportion"
def distanceWeight := "scanbydistanceproportion"
def polygonWeight := "scanbypolygonproportion"
def minNeighbours := "minscanneighbors"
def maxNeighbours := "maxscanneighbors"
def minDistance := "minscandistance"
def maxDistance := "maxscandistance"
def minPolygonDistance := "minscanpolygondistance"
def maxPolygonDistance := "maxscanpolygondistance"
def retryLimit := "insertionretrylimit"
def retryInterval := "insertionretryinterval"
def requestDistribution := "requestdistribution"
def percentile := "exponential.percentile"
def fraction := "exponential.frac"
def preloaded := "preloaded"
def datasetPath := "dataset.path"
def skipMalformed := "dataset.skipmalformed"
def backend := "db"
def threadCount := "threadcount"
def operationCount := "operationcount"

end Key

def isAsciiLetter (c : Char) : Bool :=
  ('a' ≤ c && c ≤ 'z') || ('A' ≤ c && c ≤ 'Z')

/-- A letter or an underscore, then letters, digits and underscores, all of them ASCII. -/
def isIdentifier : List Char → Bool
  | [] => false
  | first :: rest =>
      (isAsciiLetter first || first == '_') &&
        rest.all fun c => isAsciiLetter c || c.isDigit || c == '_'

/-- Table names become part of statements and keys, so only plain identifiers pass. -/
def checkIdentifier (name : String) : Except ConfigError Unit :=
  if isIdentifier name.toList then .ok () else .error (.notIdentifier name)

namespace Properties

def rangeOr (properties : Properties) (minKey maxKey : String) (min max : UInt64) :
    Except ConfigError Range := do
  let min ← properties.readOr Decimal.word64? minKey min
  let max ← properties.readOr Decimal.word64? maxKey max
  if max < min then .error (.invertedRange minKey min maxKey max) else .ok ⟨min, max⟩

def weight (properties : Properties) (key : String) : Except ConfigError Float := do
  let value ← properties.readOr Decimal.float? key 0
  if value < 0 ∨ ¬value.isFinite then .error (.negativeWeight key value) else .ok value

/-- The insert count defaults to what the record count leaves after the insert start. -/
def insertCount (properties : Properties) (recordCount insertStart : UInt64) :
    Except ConfigError (Option UInt64) := do
  match ← properties.read? Decimal.word64? Key.insertCount with
  | some count => .ok (some count)
  | none =>
      if 0 < recordCount then
        .ok (some (UInt64.ofNat (recordCount.toNat - insertStart.toNat)))
      else .ok none

/-- With a record count, the insert range has to end within it. -/
def checkInsertRange (recordCount insertStart : UInt64) (insertCount : Option UInt64) :
    Except ConfigError Unit :=
  match insertCount with
  | none => .ok ()
  | some count =>
      let finish := insertStart.toNat + count.toNat
      if recordCount = 0 then .ok ()
      else if UInt64.size ≤ finish then .error (.insertRangeOverflows insertStart count)
      else if recordCount.toNat < finish then
        .error (.insertRangeBeyondRecords insertStart count recordCount)
      else .ok ()

def retrySeconds (properties : Properties) : Except ConfigError Float := do
  let seconds ← properties.readOr Decimal.float? Key.retryInterval 3
  if 0 ≤ seconds ∧ seconds.isFinite then .ok seconds else .error (.notSeconds Key.retryInterval)

def atLeastOne (key : String) (value : UInt64) : Except ConfigError Unit :=
  if value = 0 then .error (.belowOne key) else .ok ()

def keyLaw (properties : Properties) : Except ConfigError KeyLaw :=
  match (properties.get? Key.requestDistribution).getD "uniform" with
  | "uniform" => .ok .uniform
  | "exponential" => do
      let percentile ← properties.readOr Decimal.float? Key.percentile 95
      let fraction ← properties.readOr Decimal.float? Key.fraction 0.8571428571
      if ¬(0 < percentile ∧ percentile < 100) then
        .error (.percentileOutOfRange Key.percentile percentile)
      else if ¬0 < fraction then .error (.fractionNotPositive Key.fraction fraction)
      else .ok (.exponential percentile fraction)
  | other => .error (.unknownDistribution other)

end Properties

/--
The configuration that properties describe.  A retry interval of `2 ^ 64` seconds or more
passes every check and has no duration; there the reading aborts.
-/
def Config.ofProperties (properties : Properties) : Except (Stop ConfigError) Config := do
  let table := (properties.get? Key.table).getD "GEOPOINTS"
  orStop (checkIdentifier table)
  let recordCount ← orStop (properties.readOr Decimal.word64? Key.recordCount 0)
  let insertStart ← orStop (properties.readOr Decimal.word64? Key.insertStart 0)
  let insertCount ← orStop (properties.insertCount recordCount insertStart)
  orStop (Properties.checkInsertRange recordCount insertStart insertCount)
  let knn ← orStop (properties.weight Key.knnWeight)
  let distance ← orStop (properties.weight Key.distanceWeight)
  let polygon ← orStop (properties.weight Key.polygonWeight)
  let neighbours ← orStop (properties.rangeOr Key.minNeighbours Key.maxNeighbours 1 10)
  orStop (Properties.atLeastOne Key.minNeighbours neighbours.min)
  let distanceKm ← orStop (properties.rangeOr Key.minDistance Key.maxDistance 1 100)
  let polygonKm ← orStop (properties.rangeOr Key.minPolygonDistance Key.maxPolygonDistance 1 100)
  let seconds ← orStop properties.retrySeconds
  let threadCount ← orStop (properties.readOr Decimal.word64? Key.threadCount 1)
  orStop (Properties.atLeastOne Key.threadCount threadCount)
  let retryLimit ← orStop (properties.readOr Decimal.word32? Key.retryLimit 0)
  let some retryInterval := Duration.ofSeconds? seconds | .error .aborted
  let keyLaw ← orStop properties.keyLaw
  let preloaded ← orStop (properties.readOr Text.truth? Key.preloaded false)
  let skipMalformed ← orStop (properties.readOr Text.truth? Key.skipMalformed false)
  let operationCount ← orStop (properties.readOr Decimal.word64? Key.operationCount 0)
  return {
    table, recordCount, insertStart, insertCount
    mix := ⟨knn, distance, polygon⟩
    neighbours, distanceKm, polygonKm, retryLimit, retryInterval, keyLaw, preloaded
    datasetPath := properties.get? Key.datasetPath
    skipMalformed
    backend := (properties.get? Key.backend).getD "memory"
    threadCount, operationCount }

end SpatialWorkload

import SpatialWorkload.Decimal.Shortest
import SpatialWorkload.Source
import SpatialWorkload.Text.Quoted

/-!
# Configuration errors

Every way in which settings can be missing, malformed or at odds with one another.
-/

namespace SpatialWorkload

inductive ConfigError where
  | invalidValue (key raw : String)
  | missingProperty (key : String)
  | notIdentifier (name : String)
  | insertRangeOverflows (start count : UInt64)
  | insertRangeBeyondRecords (start count records : UInt64)
  | negativeWeight (key : String) (value : Float)
  | invertedRange (minKey : String) (min : UInt64) (maxKey : String) (max : UInt64)
  | belowOne (key : String)
  | notSeconds (key : String)
  | percentileOutOfRange (key : String) (value : Float)
  | fractionNotPositive (key : String) (value : Float)
  | unknownDistribution (name : String)
  | emptyInsertRange
  | insertEndOverflows
  | datasetTooShort (available finish : Nat)
  | noKeys
  | invalidRate
  | noScanEnabled
  | operationCountMissing
  | datasetPathMissing
  | unreadableProperties (path : String) (fault : SourceFault)
  | unknownBackend (name : String)
  | backendNotBuilt (name : String)

namespace ConfigError

open Text (quote)

def message : ConfigError → String
  | invalidValue key raw => s!"invalid value for {key}: {quote raw}"
  | missingProperty key => s!"missing required property {key}"
  | notIdentifier name => s!"table name {quote name} is not a plain identifier"
  | insertRangeOverflows start count =>
      s!"insertstart ({start.toNat}) + insertcount ({count.toNat}) overflows"
  | insertRangeBeyondRecords start count records =>
      s!"invalid combination of insertstart ({start.toNat}), insertcount ({count.toNat}) " ++
        s!"and recordcount ({records.toNat}): " ++
        "recordcount must be bigger than insertstart + insertcount"
  | negativeWeight key value =>
      s!"{key} must be a non-negative number, got {Decimal.text value}"
  | invertedRange minKey min maxKey max =>
      s!"{minKey} ({min.toNat}) must not exceed {maxKey} ({max.toNat})"
  | belowOne key => s!"{key} must be at least 1"
  | notSeconds key => s!"{key} must be a non-negative number of seconds"
  | percentileOutOfRange key value =>
      s!"{key} must be in (0, 100), got {Decimal.text value}"
  | fractionNotPositive key value => s!"{key} must be positive, got {Decimal.text value}"
  | unknownDistribution name => s!"unknown request distribution {quote name}"
  | emptyInsertRange => "insert range is empty: nothing to insert or query"
  | insertEndOverflows => "insertstart + insertcount overflows"
  | datasetTooShort available finish =>
      s!"dataset holds {available} records but insertstart + insertcount = {finish}"
  | noKeys => "insert range is empty"
  | invalidRate =>
      "invalid exponential distribution: lambda is negative or NaN in exponential distribution"
  | noScanEnabled =>
      "run phase needs at least one of scanknnproportion, scanbydistanceproportion, " ++
        "scanbypolygonproportion to be positive"
  | operationCountMissing => "operationcount must be positive for the run phase"
  | datasetPathMissing => "dataset.path is required"
  | unreadableProperties path fault =>
      s!"cannot read properties file {path}: {fault.reason}"
  | unknownBackend name =>
      s!"unknown backend {quote name}, " ++
        "expected one of memory, postgres, mongodb, neo4j, redis"
  | backendNotBuilt name =>
      s!"backend {name} is not compiled into this build; " ++
        "rebuild with \x60--features " ++ name ++ "\x60"

end ConfigError

end SpatialWorkload

import SpatialWorkload.Decimal.Literal
import SpatialWorkload.Decimal.Shortest
import SpatialWorkload.Position
import SpatialWorkload.Text.Quoted
import SpatialWorkload.Timestamp.Layout

/-!
# Records

One line of a trajectory file is one record.  Of its comma-separated columns the first is
the raw identity, the fourth the time, the seventh the latitude and the eighth the
longitude; the others say nothing.  Since a raw identity repeats along a trajectory, the
record's place in the dataset is appended to it.
-/

namespace SpatialWorkload

inductive Column where
  | id
  | timestamp
  | latitude
  | longitude
  deriving DecidableEq, Repr

namespace Column

def index : Column → Nat
  | id => 0
  | timestamp => 3
  | latitude => 6
  | longitude => 7

def name : Column → String
  | id => "id"
  | timestamp => "timestamp"
  | latitude => "latitude"
  | longitude => "longitude"

end Column

inductive RecordError where
  | missing (column : Column)
  | badTimestamp (raw : String) (reason : Timestamp.ReadError)
  | badCoordinate (column : Column) (raw : String)
  | outOfRange (column : Column) (value : Float)

namespace RecordError

open Text (quote)

def message : RecordError → String
  | missing column => s!"missing {column.name} (column {column.index + 1})"
  | badTimestamp raw reason => s!"bad timestamp {quote raw}: {reason.message}"
  | badCoordinate column raw => s!"bad {column.name} {quote raw}"
  | outOfRange column value => s!"{column.name} {Decimal.text value} out of range"

end RecordError

namespace Record

def columns (line : List Char) : List (List Char) :=
  (Text.splitAt ',' line).map Text.trim

/-- A column that is blank is missing. -/
def field (columns : List (List Char)) (column : Column) : Except RecordError (List Char) :=
  match columns[column.index]? with
  | some (c :: rest) => .ok (c :: rest)
  | _ => .error (.missing column)

def readTimestamp (raw : List Char) : Except RecordError Timestamp :=
  match Timestamp.read Timestamp.recordLayout raw with
  | .ok stamp => .ok stamp
  | .error reason => .error (.badTimestamp (String.ofList raw) reason)

/-- A coordinate is finite and at most `bound` in magnitude. -/
def readCoordinate (column : Column) (bound : Float) (raw : List Char) :
    Except RecordError Float :=
  match Decimal.float? raw with
  | none => .error (.badCoordinate column (String.ofList raw))
  | some value =>
      if value.isFinite ∧ ¬bound < value.abs then .ok value
      else .error (.outOfRange column value)

def read (line : List Char) (index : Nat) : Except RecordError (Position Float) := do
  let columns := columns line
  let raw ← field columns .id
  let timestamp ← readTimestamp (← field columns .timestamp)
  let latitude ← readCoordinate .latitude 90 (← field columns .latitude)
  let longitude ← readCoordinate .longitude 180 (← field columns .longitude)
  return ⟨s!"{String.ofList raw}-{index}", latitude, longitude, timestamp⟩

end Record

end SpatialWorkload

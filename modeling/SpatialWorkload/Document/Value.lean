import SpatialWorkload.Position

/-!
# Document values

The values of a document database, as far as documents of positions hold them.  A document
is a list of named values; a name occurs once.
-/

namespace SpatialWorkload

inductive DocumentValue where
  | null
  | text (value : String)
  | int (value : Int)
  | double (value : Float)
  /-- A moment, in milliseconds since 1970. -/
  | millis (value : Int)
  | array (items : List DocumentValue)
  | object (fields : List (String × DocumentValue))

abbrev Document := List (String × DocumentValue)

inductive DocumentError where
  | absentField
  | unexpectedType
  | badCoordinates (id : String)
  | badTime (id : String)
  deriving DecidableEq, Repr

def DocumentError.message : DocumentError → String
  | absentField => "mongodb: malformed document: field is not present"
  | unexpectedType => "mongodb: malformed document: field does not have the expected type"
  | badCoordinates id => s!"document {id} has malformed coordinates"
  | badTime id => s!"document {id} has an invalid time_of_record"

namespace DocumentValue

def text? : DocumentValue → Option String
  | text value => some value
  | _ => none

/-- Whole numbers are no doubles. -/
def double? : DocumentValue → Option Float
  | double value => some value
  | _ => none

def millis? : DocumentValue → Option Int
  | millis value => some value
  | _ => none

def array? : DocumentValue → Option (List DocumentValue)
  | array items => some items
  | _ => none

def object? : DocumentValue → Option Document
  | object fields => some fields
  | _ => none

end DocumentValue

namespace Document

def read {β : Type} (read : DocumentValue → Option β) (document : Document) (name : String) :
    Except DocumentError β :=
  match document.lookup name with
  | none => .error .absentField
  | some value =>
      match read value with
      | none => .error .unexpectedType
      | some content => .ok content

end Document

end SpatialWorkload

import SpatialWorkload.Config.Error
import SpatialWorkload.Decimal.Literal
import SpatialWorkload.Properties

/-!
# Typed properties

A property whose value is blank counts as absent.  A present value is trimmed and read as
its type; a value that does not read is an error that shows it untrimmed.
-/

namespace SpatialWorkload

namespace Decimal

def word64? (text : List Char) : Option UInt64 :=
  (unsigned? 18446744073709551615 text).map UInt64.ofNat

def word32? (text : List Char) : Option UInt32 :=
  (unsigned? 4294967295 text).map UInt32.ofNat

def word16? (text : List Char) : Option UInt16 :=
  (unsigned? 65535 text).map UInt16.ofNat

def signed64? (text : List Char) : Option Int :=
  integer? 9223372036854775807 text

end Decimal

namespace Text

def truth? (text : List Char) : Option Bool :=
  if text = "true".toList then some true
  else if text = "false".toList then some false
  else none

end Text

namespace Properties

/-- The value of a key, unless it is blank. -/
def get? (properties : Properties) (key : String) : Option String :=
  (properties.lookup? key).filter fun value => !Text.isBlankText value.toList

def read? {β : Type} (properties : Properties) (read : List Char → Option β) (key : String) :
    Except ConfigError (Option β) :=
  match properties.get? key with
  | none => .ok none
  | some raw =>
      match read (Text.trim raw.toList) with
      | some value => .ok (some value)
      | none => .error (.invalidValue key raw)

def readOr {β : Type} (properties : Properties) (read : List Char → Option β) (key : String)
    (otherwise : β) : Except ConfigError β :=
  (properties.read? read key).map fun value => value.getD otherwise

def require (properties : Properties) (key : String) : Except ConfigError String :=
  match properties.get? key with
  | some value => .ok value
  | none => .error (.missingProperty key)

end Properties

end SpatialWorkload

import SpatialWorkload.Association
import SpatialWorkload.Text.Blank

/-!
# Properties

Settings are a map from keys to texts.  A text of properties binds one key per line, as
`key=value` or `key: value`; a later binding of a key replaces an earlier one.
-/

namespace SpatialWorkload

structure Properties where
  bindings : List (String × String)
  deriving DecidableEq, Repr

namespace Properties

def empty : Properties := ⟨[]⟩

def bind (properties : Properties) (key value : String) : Properties :=
  ⟨Association.set key value properties.bindings⟩

def extend (properties : Properties) (bindings : List (String × String)) : Properties :=
  bindings.foldl (fun map binding => map.bind binding.1 binding.2) properties

def ofList (bindings : List (String × String)) : Properties :=
  empty.extend bindings

/-- The value bound to a key, blank or not. -/
def lookup? (properties : Properties) (key : String) : Option String :=
  properties.bindings.lookup key

def size (properties : Properties) : Nat :=
  properties.bindings.length

/-- Only the bound key changes. -/
theorem lookup?_bind (properties : Properties) (key value other : String) :
    (properties.bind key value).lookup? other =
      if other = key then some value else properties.lookup? other :=
  Association.lookup_set key other value properties.bindings

/-- Splits a line at its first `=` or `:`; a line without either is a key alone. -/
def splitBinding : List Char → List Char × List Char
  | [] => ([], [])
  | c :: rest =>
      if c = '=' ∨ c = ':' then ([], rest)
      else
        let (key, value) := splitBinding rest
        (c :: key, value)

/-- Blank lines and lines that start with `#` or `!` bind nothing. -/
def bindingOfLine? (line : List Char) : Option (String × String) :=
  match Text.trim line with
  | [] => none
  | '#' :: _ => none
  | '!' :: _ => none
  | trimmed =>
      let (key, value) := splitBinding trimmed
      some (String.ofList (Text.trim key), String.ofList (Text.trim value))

def bindingsOfText (text : List Char) : List (String × String) :=
  (Text.lines text).filterMap bindingOfLine?

def ofText (text : String) : Properties :=
  ofList (bindingsOfText text.toList)

/-- One binding given by itself: a key that is not blank, `=`, and a value. -/
def bindingOfArgument? (text : List Char) : Option (String × String) :=
  let key := text.takeWhile (· != '=')
  match text.dropWhile (· != '=') with
  | '=' :: value =>
      if Text.isBlankText key then none
      else some (String.ofList (Text.trim key), String.ofList (Text.trim value))
  | _ => none

end Properties

end SpatialWorkload

import SpatialWorkload.Json.Number
import SpatialWorkload.Json.Text

/-!
# JSON texts

Reads a JSON text into a value whose numbers, strings and names are not yet judged, since a
value that nobody asks for may be any number and hold any code units, and so may the names
inside it.
-/

namespace SpatialWorkload

inductive Json where
  | null
  | truth (value : Bool)
  | number (written : Json.Number)
  | string (parts : List Json.StringPart)
  | array (items : List Json)
  /-- Members in the order in which they are written; names may repeat. -/
  | object (members : List (List Json.StringPart × Json))

namespace Json

def isSpace (c : Char) : Bool :=
  c = ' ' || c = '\n' || c = '\t' || c = '\r'

def skipSpace (text : List Char) : List Char :=
  text.dropWhile isSpace

def scanName (text : List Char) : Option (List StringPart × List Char) :=
  match skipSpace text with
  | '"' :: rest => do
      let (name, rest) ← StringPart.scan rest
      match skipSpace rest with
      | ':' :: rest => some (name, rest)
      | _ => none
  | _ => none

mutual

def scanValue : Nat → List Char → Option (Json × List Char)
  | 0, _ => none
  | fuel + 1, text =>
      match skipSpace text with
      | 'n' :: 'u' :: 'l' :: 'l' :: rest => some (null, rest)
      | 't' :: 'r' :: 'u' :: 'e' :: rest => some (truth true, rest)
      | 'f' :: 'a' :: 'l' :: 's' :: 'e' :: rest => some (truth false, rest)
      | '"' :: rest => (StringPart.scan rest).map fun (parts, rest) => (string parts, rest)
      | '[' :: rest =>
          match skipSpace rest with
          | ']' :: rest => some (array [], rest)
          | rest => (scanItems fuel rest).map fun (items, rest) => (array items, rest)
      | '\x7b' :: rest =>
          match skipSpace rest with
          | '\x7d' :: rest => some (object [], rest)
          | rest => (scanMembers fuel rest).map fun (members, rest) => (object members, rest)
      | rest => (Number.scan rest).map fun (written, rest) => (number written, rest)

def scanItems : Nat → List Char → Option (List Json × List Char)
  | 0, _ => none
  | fuel + 1, text => do
      let (item, rest) ← scanValue fuel text
      match skipSpace rest with
      | ']' :: rest => some ([item], rest)
      | ',' :: rest =>
          let (items, rest) ← scanItems fuel rest
          some (item :: items, rest)
      | _ => none

def scanMembers : Nat → List Char → Option (List (List StringPart × Json) × List Char)
  | 0, _ => none
  | fuel + 1, text => do
      let (name, rest) ← scanName text
      let (value, rest) ← scanValue fuel rest
      match skipSpace rest with
      | '\x7d' :: rest => some ([(name, value)], rest)
      | ',' :: rest =>
          let (members, rest) ← scanMembers fuel rest
          some ((name, value) :: members, rest)
      | _ => none

end

/-- Reads a whole text.  Each level and each item takes a character and at most two steps. -/
def read (text : List Char) : Option Json := do
  let (value, rest) ← scanValue (2 * text.length + 1) text
  if (skipSpace rest).isEmpty then some value else none

def string? : Json → Option String
  | string parts => (StringPart.join parts).map String.ofList
  | _ => none

def word? : Json → Option UInt64
  | number written => written.word?
  | _ => none

def float? : Json → Option Float
  | number written => written.float?
  | _ => none

/-- The members of an object under their names, all of which have to be whole strings. -/
def named? (members : List (List StringPart × Json)) : Option (List (List Char × Json)) :=
  members.mapM fun (name, value) => (StringPart.join name).map (·, value)

/--
The values of the fields of a record, which is an array of exactly these fields or an
object that has each of them once; the values of other members say nothing.
-/
def fields? (names : List String) : Json → Option (List Json)
  | array items => if items.length = names.length then some items else none
  | object members => do
      let members ← named? members
      names.mapM fun name =>
        match members.filter fun entry => entry.1 == name.toList with
        | [(_, value)] => some value
        | _ => none
  | _ => none

end Json

end SpatialWorkload

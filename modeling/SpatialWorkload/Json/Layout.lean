import SpatialWorkload.Json.Value

/-!
# Written JSON

Writes a value with each item and each member on a line of its own, two columns deeper than
what holds it.
-/

namespace SpatialWorkload.Json

def ofNat (value : Nat) : Json :=
  number ⟨false, Nat.toDigits 10 value, [], none⟩

def StringPart.ofString (text : String) : List StringPart :=
  text.toList.map .character

def ofString (text : String) : Json :=
  string (StringPart.ofString text)

def ofMembers (members : List (String × Json)) : Json :=
  object (members.map fun (name, value) => (StringPart.ofString name, value))

def Number.write (number : Number) : List Char :=
  let sign := if number.negative then ['-'] else []
  let fraction := if number.fraction.isEmpty then [] else '.' :: number.fraction
  let exponent := match number.exponent with
    | none => []
    | some (negative, digits) => 'e' :: (if negative then '-' :: digits else digits)
  sign ++ number.whole ++ fraction ++ exponent

namespace StringPart

def writeUnit (code : Nat) : List Char :=
  let digits := Nat.toDigits 16 code
  '\\' :: 'u' :: (List.replicate (4 - digits.length) '0' ++ digits)

/-- Quotes, backslashes and controls are escaped, everything else stands for itself. -/
def write : StringPart → List Char
  | character '"' => ['\\', '"']
  | character '\\' => ['\\', '\\']
  | character '\x08' => ['\\', 'b']
  | character '\x0c' => ['\\', 'f']
  | character '\n' => ['\\', 'n']
  | character '\r' => ['\\', 'r']
  | character '\t' => ['\\', 't']
  | character c => if c.toNat < 0x20 then writeUnit c.toNat else [c]
  | unit code => writeUnit code

def writeAll (parts : List StringPart) : List Char :=
  '"' :: parts.flatMap write ++ ['"']

end StringPart

def newLine (depth : Nat) : List Char :=
  '\n' :: List.replicate (2 * depth) ' '

def writeName (name : List StringPart) : List Char :=
  StringPart.writeAll name ++ [':', ' ']

mutual

def write (depth : Nat) : Json → List Char
  | null => "null".toList
  | truth true => "true".toList
  | truth false => "false".toList
  | number written => written.write
  | string parts => StringPart.writeAll parts
  | array [] => "[]".toList
  | array (item :: items) =>
      '[' :: newLine (depth + 1) ++ write (depth + 1) item ++ writeItems (depth + 1) items ++
        newLine depth ++ [']']
  | object [] => ['\x7b', '\x7d']
  | object ((name, value) :: members) =>
      '\x7b' :: newLine (depth + 1) ++ writeName name ++ write (depth + 1) value ++
        writeMembers (depth + 1) members ++ newLine depth ++ ['\x7d']

def writeItems (depth : Nat) : List Json → List Char
  | [] => []
  | item :: items => ',' :: newLine depth ++ write depth item ++ writeItems depth items

def writeMembers (depth : Nat) : List (List StringPart × Json) → List Char
  | [] => []
  | (name, value) :: members =>
      ',' :: newLine depth ++ writeName name ++ write depth value ++ writeMembers depth members

end

def render (json : Json) : String :=
  String.ofList (json.write 0)

end SpatialWorkload.Json

/-!
# Strings in JSON

A string is scanned into characters and escaped code units.  Code units of surrogates
stand for one character in pairs and for none alone.
-/

namespace SpatialWorkload.Json

inductive StringPart where
  | character (c : Char)
  | unit (code : Nat)
  deriving DecidableEq, Repr

namespace StringPart

def hexDigit? (c : Char) : Option Nat :=
  if c.isDigit then some (c.toNat - '0'.toNat)
  else if 'a' ≤ c ∧ c ≤ 'f' then some (c.toNat - 'a'.toNat + 10)
  else if 'A' ≤ c ∧ c ≤ 'F' then some (c.toNat - 'A'.toNat + 10)
  else none

def unit? (digits : List Char) : Option Nat :=
  digits.foldlM (fun code digit => (hexDigit? digit).map (16 * code + ·)) 0

def escaped? : Char → Option Char
  | '"' => some '"'
  | '\\' => some '\\'
  | '/' => some '/'
  | 'b' => some '\x08'
  | 'f' => some '\x0c'
  | 'n' => some '\n'
  | 'r' => some '\r'
  | 't' => some '\t'
  | _ => none

/-- Scans up to the closing quote.  Controls are refused; they have to be escaped. -/
def scan : List Char → Option (List StringPart × List Char)
  | [] => none
  | '"' :: rest => some ([], rest)
  | '\\' :: 'u' :: a :: b :: c :: d :: rest => do
      let code ← unit? [a, b, c, d]
      let (parts, rest) ← scan rest
      return (unit code :: parts, rest)
  | '\\' :: letter :: rest => do
      let c ← escaped? letter
      let (parts, rest) ← scan rest
      return (character c :: parts, rest)
  | c :: rest =>
      if c = '\\' ∨ c.toNat < 0x20 then none
      else do
        let (parts, rest) ← scan rest
        return (character c :: parts, rest)

def isHigh (code : Nat) : Bool := 0xD800 ≤ code && code ≤ 0xDBFF

def isLow (code : Nat) : Bool := 0xDC00 ≤ code && code ≤ 0xDFFF

/-- The characters of a string, unless half of one stands alone. -/
def join : List StringPart → Option (List Char)
  | [] => some []
  | character c :: rest => (join rest).map (c :: ·)
  | unit high :: unit low :: rest =>
      if isHigh high then
        if isLow low then
          let code := 0x10000 + (high - 0xD800) * 0x400 + (low - 0xDC00)
          (join rest).map (Char.ofNat code :: ·)
        else none
      else if isLow high then none
      else (join (unit low :: rest)).map (Char.ofNat high :: ·)
  | unit code :: rest =>
      if isHigh code || isLow code then none else (join rest).map (Char.ofNat code :: ·)

end StringPart

end SpatialWorkload.Json

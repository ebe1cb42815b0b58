import SpatialWorkload.Text.Unprintable

/-!
# Quoted text

Messages show a text from outside between double quotes.  The quote, the backslash and
four controls have a short escape; every other character that cannot be seen is written
as its code point in hexadecimal.
-/

namespace SpatialWorkload.Text

def escapeCode (c : Char) : List Char :=
  "\\u\x7b".toList ++ Nat.toDigits 16 c.toNat ++ ['\x7d']

def escape (c : Char) : List Char :=
  match c with
  | '"' => ['\\', '"']
  | '\\' => ['\\', '\\']
  | '\n' => ['\\', 'n']
  | '\r' => ['\\', 'r']
  | '\t' => ['\\', 't']
  | '\x00' => ['\\', '0']
  | other => if isUnprintable other then escapeCode other else [other]

def quote (text : String) : String :=
  String.ofList ('"' :: text.toList.flatMap escape ++ ['"'])

end SpatialWorkload.Text

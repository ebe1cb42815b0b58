import SpatialWorkload.Text.Blank
import SpatialWorkload.Timestamp

/-!
# Timestamp layouts

A layout is the sequence of fields and marks of a written timestamp.  One layout serves
to write and to read; reading is the more tolerant of the two, since numbers may be
shorter than they are written and white space may stand before them.
-/

namespace SpatialWorkload.Timestamp

/-- One field, mark or gap of a written timestamp. -/
inductive Piece where
  | year
  | month
  | day
  | hour
  | minute
  | second
  /-- A point and up to nine digits, or nothing. -/
  | fraction
  | mark (symbol : Char)
  /-- Written as one space, read as any run of white space. -/
  | space
  /-- Written as nothing, read as any run of white space. -/
  | gap
  deriving DecidableEq, Repr

abbrev Layout := List Piece

/-- The layout of data files: `2008-02-02 13:30:49`. -/
def recordLayout : Layout :=
  [.year, .mark '-', .month, .mark '-', .day, .space,
    .hour, .mark ':', .minute, .mark ':', .second]

/-- The layout of structured data: `2008-02-02T13:30:49.5`. -/
def isoLayout : Layout :=
  [.year, .gap, .mark '-', .month, .gap, .mark '-', .day, .gap, .mark 'T',
    .hour, .gap, .mark ':', .minute, .gap, .mark ':', .second, .fraction, .gap]

def padded (width value : Nat) : List Char :=
  let text := Nat.toDigits 10 value
  List.replicate (width - text.length) '0' ++ text

/-- Years of four digits stand alone; all others carry a sign. -/
def writeYear (year : Int) : List Char :=
  if 0 ≤ year ∧ year ≤ 9999 then padded 4 year.toNat
  else if year < 0 then '-' :: padded 4 year.natAbs
  else '+' :: padded 4 year.natAbs

/-- Three, six or nine digits, as many as the fraction needs. -/
def writeFraction (nanosecond : Nat) : List Char :=
  if nanosecond = 0 then []
  else if nanosecond % 1000000 = 0 then '.' :: padded 3 (nanosecond / 1000000)
  else if nanosecond % 1000 = 0 then '.' :: padded 6 (nanosecond / 1000)
  else '.' :: padded 9 nanosecond

def Piece.write (fields : TimestampFields) : Piece → List Char
  | year => writeYear fields.year
  | month => padded 2 fields.month
  | day => padded 2 fields.day
  | hour => padded 2 fields.hour
  | minute => padded 2 fields.minute
  | second => padded 2 fields.second
  | fraction => writeFraction fields.nanosecond
  | mark symbol => [symbol]
  | space => [' ']
  | gap => []

def write (layout : Layout) (stamp : Timestamp) : String :=
  String.ofList (layout.flatMap (Piece.write stamp.fields))

inductive ReadError where
  | prematureEnd
  | unexpectedCharacter
  | outOfRange
  | trailingText
  deriving DecidableEq, Repr

def ReadError.message : ReadError → String
  | prematureEnd => "premature end of input"
  | unexpectedCharacter => "input contains invalid characters"
  | outOfRange => "input is out of range"
  | trailingText => "trailing input"

def largestNumber : Nat := 9223372036854775807

/--
Reads on from `value` through at most `width` digits.  A number past the largest is out
of range at the digit that makes it so, whatever follows.
-/
def readDigits : Nat → Nat → List Char → Except ReadError (Nat × List Char)
  | 0, value, text => .ok (value, text)
  | _ + 1, value, [] => .ok (value, [])
  | width + 1, value, c :: rest =>
      if c.isDigit then
        let next := 10 * value + (c.toNat - '0'.toNat)
        if largestNumber < next then .error .outOfRange else readDigits width next rest
      else .ok (value, c :: rest)

def readNumber (width : Nat) : List Char → Except ReadError (Nat × List Char)
  | [] => .error .prematureEnd
  | c :: rest =>
      if c.isDigit then readDigits width 0 (c :: rest) else .error .unexpectedCharacter

def readBetween (least greatest width : Nat) (text : List Char) :
    Except ReadError (Nat × List Char) := do
  let (value, rest) ← readNumber width text
  if value < least ∨ greatest < value then .error .outOfRange else .ok (value, rest)

/-- A year without a sign has at most four digits, one with a sign any number. -/
def readYear (text : List Char) : Except ReadError (Int × List Char) := do
  let (value, rest) ← match text with
    | '-' :: digits => (readNumber digits.length digits).map fun (n, rest) => (-(n : Int), rest)
    | '+' :: digits => (readNumber digits.length digits).map fun (n, rest) => ((n : Int), rest)
    | digits => (readNumber 4 digits).map fun (n, rest) => ((n : Int), rest)
  if value < -2147483648 ∨ 2147483647 < value then .error .outOfRange else .ok (value, rest)

/-- Digits past the ninth say nothing. -/
def readFraction : List Char → Except ReadError (Nat × List Char)
  | '.' :: text => do
      let (value, rest) ← readNumber 9 text
      let width := text.length - rest.length
      .ok (value * Nat.pow 10 (9 - width), rest.dropWhile Char.isDigit)
  | text => .ok (0, text)

def readMark (symbol : Char) : List Char → Except ReadError (List Char)
  | [] => .error .prematureEnd
  | c :: rest => if c = symbol then .ok rest else .error .unexpectedCharacter

def Piece.read (piece : Piece) (fields : TimestampFields) (text : List Char) :
    Except ReadError (TimestampFields × List Char) :=
  match piece with
  | year => (readYear (Text.trimStart text)).map fun (n, rest) => ({ fields with year := n }, rest)
  | month =>
      (readBetween 1 12 2 (Text.trimStart text)).map fun (n, rest) =>
        ({ fields with month := n }, rest)
  | day =>
      (readBetween 1 31 2 (Text.trimStart text)).map fun (n, rest) =>
        ({ fields with day := n }, rest)
  | hour =>
      (readBetween 0 23 2 (Text.trimStart text)).map fun (n, rest) =>
        ({ fields with hour := n }, rest)
  | minute =>
      (readBetween 0 59 2 (Text.trimStart text)).map fun (n, rest) =>
        ({ fields with minute := n }, rest)
  | second =>
      (readBetween 0 60 2 (Text.trimStart text)).map fun (n, rest) =>
        ({ fields with second := n }, rest)
  | fraction => (readFraction text).map fun (n, rest) => ({ fields with nanosecond := n }, rest)
  | mark symbol => (readMark symbol text).map fun rest => (fields, rest)
  | space => .ok (fields, Text.trimStart text)
  | gap => .ok (fields, Text.trimStart text)

def readPieces : Layout → TimestampFields → List Char →
    Except ReadError (TimestampFields × List Char)
  | [], fields, text => .ok (fields, text)
  | piece :: layout, fields, text => do
      let (fields, rest) ← piece.read fields text
      readPieces layout fields rest

/-- The fields are checked one by one as they are read, the date as a whole at the end. -/
def read (layout : Layout) (text : List Char) : Except ReadError Timestamp := do
  let (fields, rest) ← readPieces layout epoch.fields text
  match rest, ofFields? fields with
  | _ :: _, _ => .error .trailingText
  | [], none => .error .outOfRange
  | [], some stamp => .ok stamp

end SpatialWorkload.Timestamp

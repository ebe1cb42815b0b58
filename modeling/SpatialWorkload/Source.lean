import SpatialWorkload.Text.Blank

/-!
# Sources

What stands at a path, as one text or line by line.  Bytes that are no text spoil a whole
text, but of the lines only their own.
-/

namespace SpatialWorkload

inductive SourceFault where
  | notFound
  | accessDenied
  /-- The path leads on behind something that is no directory. -/
  | notDirectory
  | isDirectory
  | nameTooLong
  | nulInPath
  | notText
  /-- Any other refusal, by the number that the system gives it. -/
  | other (number : Nat)
  deriving DecidableEq, Repr

namespace SourceFault

def ofNumber : Nat → SourceFault
  | 2 => notFound
  | 13 => accessDenied
  | 20 => notDirectory
  | 21 => isDirectory
  | 36 => nameTooLong
  | number => other number

def reason : SourceFault → String
  | notFound => "No such file or directory (os error 2)"
  | accessDenied => "Permission denied (os error 13)"
  | notDirectory => "Not a directory (os error 20)"
  | isDirectory => "Is a directory (os error 21)"
  | nameTooLong => "File name too long (os error 36)"
  | nulInPath => "file name contained an unexpected NUL byte"
  | notText => "stream did not contain valid UTF-8"
  | other number => s!"Unexpected failure (os error {number})"

end SourceFault

abbrev SourceLine := Except SourceFault (List Char)

namespace SourceLine

def ofText (text : List Char) : List SourceLine :=
  (Text.lines text).map .ok

/-- The byte lines of a file: like the lines of a text, before anything is decoded. -/
def splitBytes : List UInt8 → List (List UInt8)
  | [] => [[]]
  | byte :: rest =>
      if byte = 10 then [] :: splitBytes rest
      else
        match splitBytes rest with
        | [] => [[byte]]
        | first :: others => (byte :: first) :: others

def decode (bytes : List UInt8) : Except SourceFault String :=
  match String.fromUTF8? (ByteArray.mk bytes.toArray) with
  | some text => .ok text
  | none => .error .notText

def ofByteLine (line : List UInt8) : SourceLine :=
  (decode line).map String.toList

def ofBytes (bytes : List UInt8) : List SourceLine :=
  let pieces := splitBytes bytes
  let complete := pieces.dropLast.map fun line =>
    ofByteLine (if line.getLast? = some 13 then line.dropLast else line)
  match pieces.getLast? with
  | some (byte :: rest) => complete ++ [ofByteLine (byte :: rest)]
  | _ => complete

end SourceLine

/-- What a path leads to, which opens as a directory or a file or not at all. -/
inductive Source where
  | closed (fault : SourceFault)
  | directory
  | file (bytes : List UInt8)

namespace Source

def text : Source → Except SourceFault String
  | closed fault => .error fault
  | directory => .error .isDirectory
  | file bytes => SourceLine.decode bytes

/-- A directory opens like a file, and then no line of it can be read. -/
def lines : Source → Except SourceFault (List SourceLine)
  | closed fault => .error fault
  | directory => .ok [.error .isDirectory, .error .isDirectory]
  | file bytes => .ok (SourceLine.ofBytes bytes)

/-- Follows a path, unless it holds a NUL, which no path can. -/
def follow {m : Type → Type} [Monad m] (read : String → m Source) (path : String) : m Source :=
  if path.toList.contains '\x00' then pure (closed .nulInPath) else read path

end Source

end SpatialWorkload

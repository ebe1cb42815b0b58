import SpatialWorkload.Dataset.Record
import SpatialWorkload.Source

/-!
# Datasets

A dataset is read once from a trajectory file and then only looked up by index.  The first
line is a header.  Reading stops where the limit on records is reached, before the next
line is looked at; what stands behind it cannot matter.
-/

namespace SpatialWorkload

inductive LoadError where
  | cannotOpen (path : String) (fault : SourceFault)
  | unreadable (line : Nat) (fault : SourceFault)
  | malformed (line : Nat) (reason : RecordError)

def LoadError.message : LoadError → String
  | cannotOpen path fault => s!"cannot open dataset {path}: {fault.reason}"
  | unreadable line fault => s!"reading line {line}: {fault.reason}"
  | malformed line reason => s!"line {line}: {reason.message}"

structure Dataset where
  positions : Array (Position Float)

namespace Dataset

def size (dataset : Dataset) : Nat :=
  dataset.positions.size

def get? (dataset : Dataset) (index : UInt64) : Option (Position Float) :=
  dataset.positions[index.toNat]?

/-- How a file is read: at most so many records, and whether malformed ones are passed over. -/
structure Options where
  limit : Option Nat
  skipMalformed : Bool

def Options.isFull (options : Options) (count : Nat) : Bool :=
  options.limit.any (· ≤ count)

def collect (options : Options) (number : Nat) (read : Array (Position Float)) :
    List SourceLine → Except LoadError (Array (Position Float))
  | [] => .ok read
  | line :: rest =>
      if options.isFull read.size then .ok read
      else
        match line with
        | .error fault => .error (.unreadable number fault)
        | .ok text =>
            if Text.isBlankText text then collect options (number + 1) read rest
            else
              match Record.read (Text.trimEnd text) read.size with
              | .ok position => collect options (number + 1) (read.push position) rest
              | .error reason =>
                  if options.skipMalformed then collect options (number + 1) read rest
                  else .error (.malformed number reason)

def load (options : Options) (lines : List SourceLine) : Except LoadError Dataset :=
  (collect options 2 #[] lines.tail).map Dataset.mk

end Dataset

end SpatialWorkload

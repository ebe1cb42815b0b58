import SpatialWorkload.CommandLine.Execution

/-!
# The program

Reads the arguments, carries out the command on real files and prints its report.
-/

open SpatialWorkload

namespace Program

def usage : String :=
  "Geospatial workload benchmark for spatial databases\n\n" ++
    "Usage: [OPTIONS] <load|run|all>\n\n" ++
    "Options:\n" ++
    "  -P <FILE>            Workload properties file; may be given more than once\n" ++
    "  -p <KEY=VALUE>       Single property, applied after the files\n" ++
    "      --threads <N>    Worker threads (overrides threadcount; 0 = one per core)\n" ++
    "  -h, --help           Print help"

def complaint : UsageError → String
  | .invalidValue => "a value is missing or unknown"
  | .valueValidation => "a value is malformed"
  | .unknownArgument => "unexpected argument"
  | .missingCommand => "the command is missing"
  | .argumentConflict => "--threads is given twice"
  | .unneededValue => "--help takes no value"
  | .helpRequested => "help"

/-- The system's number of an error, which is counted from zero upwards or downwards. -/
def errorNumber (code : UInt32) : Nat :=
  if code < 0x80000000 then code.toNat else (0 - code).toNat

def faultOf : IO.Error → SourceFault
  | .noFileOrDirectory _ code _ => .ofNumber (errorNumber code)
  | .inappropriateType _ code _ => .ofNumber (errorNumber code)
  | .invalidArgument _ code _ => .ofNumber (errorNumber code)
  | .permissionDenied _ code _ => .ofNumber (errorNumber code)
  | .resourceExhausted _ code _ => .ofNumber (errorNumber code)
  | .otherError code _ => .ofNumber (errorNumber code)
  | _ => .other 5

/-- A directory is known by the refusal to read it. -/
def readSource (path : String) : IO Source := do
  try
    return .file (← IO.FS.readBinFile path).toList
  catch error =>
    match faultOf error with
    | .isDirectory => return .directory
    | fault => return .closed fault

def countCores : IO Nat := do
  try
    let lines ← IO.FS.lines "/proc/cpuinfo"
    return max 1 (lines.filter fun line => line.startsWith "processor").size
  catch _ => return 1

def run (arguments : Arguments) : IO UInt32 := do
  let seed ← IO.rand 0 4611686018427387904
  let words (phase : Phase) (id : Nat) : Words :=
    Words.ofSeed (UInt64.ofNat (seed + 2 * id + if phase = .run then 1 else 0))
  match ← (arguments.execute readSource (← countCores) words).run with
  | .ok report =>
      IO.println (Json.ofReport report).render
      return 0
  | .error (.refused failure) =>
      IO.eprintln s!"Error: {failure.message}"
      return 1
  | .error .aborted =>
      IO.eprintln "Error: aborted"
      return 101

end Program

def main (arguments : List String) : IO UInt32 := do
  match Arguments.read arguments with
  | .ok arguments => Program.run arguments
  | .error .helpRequested =>
      IO.println Program.usage
      return 0
  | .error error =>
      IO.eprintln s!"error: {Program.complaint error}"
      return 2

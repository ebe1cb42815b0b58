import SpatialWorkload.Properties.Typed
import SpatialWorkload.Text.Quoted

/-!
# Arguments

A command word and options in any order.  What has been taken in is only judged when the
next option or word begins, so that an argument nobody knows is reported before a bad value
that stands right in front of it.
-/

namespace SpatialWorkload

inductive Command where
  | load
  | run
  | all
  deriving DecidableEq, Repr

def Command.read? : String → Option Command
  | "load" => some .load
  | "run" => some .run
  | "all" => some .all
  | _ => none

inductive UsageError where
  /-- The value is missing, or is no word that is known. -/
  | invalidValue
  /-- The value does not read as its type. -/
  | valueValidation
  | unknownArgument
  | missingCommand
  | argumentConflict
  | unneededValue
  | helpRequested
  deriving DecidableEq, Repr

def Properties.argumentRefusal (raw : String) : String :=
  s!"expected key=value, got {Text.quote raw}"

structure Arguments where
  command : Command
  propertyFiles : List String
  bindings : List (String × String)
  threads : Option UInt64
  deriving DecidableEq, Repr

namespace Arguments

inductive Slot where
  | command
  | propertyFile
  | property
  | threads
  deriving DecidableEq, Repr

/-- What has been read so far.  An option that waits for its value is pending without one. -/
structure Reading where
  command : Option Command
  propertyFiles : List String
  bindings : List (String × String)
  threads : Option UInt64
  pending : Option (Slot × Option String)
  /-- A word for the command has been seen. -/
  hasWord : Bool
  /-- Options have ended, and only words follow. -/
  wordsOnly : Bool
  deriving DecidableEq, Repr

namespace Reading

def start : Reading := ⟨none, [], [], none, none, false, false⟩

/-- Takes a value in.  Files and properties add up; a number of threads is given once. -/
def accept (reading : Reading) (slot : Slot) (value : String) : Except UsageError Reading :=
  match slot with
  | .command =>
      match Command.read? value with
      | some command => .ok { reading with command := some command }
      | none => .error .invalidValue
  | .propertyFile =>
      if value = "" then .error .invalidValue
      else .ok { reading with propertyFiles := reading.propertyFiles ++ [value] }
  | .property =>
      match Properties.bindingOfArgument? value.toList with
      | some binding => .ok { reading with bindings := reading.bindings ++ [binding] }
      | none => .error .valueValidation
  | .threads =>
      if reading.threads.isSome then .error .argumentConflict
      else
        match Decimal.word64? value.toList with
        | some threads => .ok { reading with threads := some threads }
        | none => .error .valueValidation

def settle (reading : Reading) : Except UsageError Reading :=
  match reading.pending with
  | none => .ok reading
  | some (_, none) => .error .invalidValue
  | some (slot, some value) => { reading with pending := none }.accept slot value

def option (reading : Reading) (slot : Slot) (attached : Option String) :
    Except UsageError Reading := do
  let reading ← reading.settle
  match attached with
  | some value => reading.accept slot value
  | none => return { reading with pending := some (slot, none) }

def help (reading : Reading) : Except UsageError Reading := do
  let _ ← reading.settle
  .error .helpRequested

/-- The first word is the command, and there is no place for another one. -/
def word (reading : Reading) (text : String) : Except UsageError Reading :=
  if reading.hasWord then .error .unknownArgument
  else do
    let reading ← reading.settle
    return { reading with pending := some (.command, some text), hasWord := true }

def long (reading : Reading) (text : List Char) : Except UsageError Reading :=
  let name := String.ofList (text.takeWhile (· != '='))
  let attached := match text.dropWhile (· != '=') with
    | _ :: value => some (String.ofList value)
    | [] => none
  if name = "threads" then reading.option .threads attached
  else if name = "help" then
    if attached.isSome then .error .unneededValue else reading.help
  else .error .unknownArgument

/-- The value of a short option follows it at once or after an equals sign. -/
def short (reading : Reading) (letter : Char) (rest : List Char) : Except UsageError Reading :=
  let attached := match rest with
    | [] => none
    | '=' :: value => some (String.ofList value)
    | value => some (String.ofList value)
  match letter with
  | 'P' => reading.option .propertyFile attached
  | 'p' => reading.option .property attached
  | 'h' => reading.help
  | _ => .error .unknownArgument

/-- A word that no option waits for is the command. -/
def plain (reading : Reading) (text : String) : Except UsageError Reading :=
  match reading.pending with
  | some (slot, none) => .ok { reading with pending := some (slot, some text) }
  | _ => reading.word text

def argument (reading : Reading) (text : String) : Except UsageError Reading :=
  if reading.wordsOnly then reading.word text
  else
    match text.toList with
    | ['-', '-'] => .ok { reading with wordsOnly := true }
    | '-' :: '-' :: rest => reading.long rest
    | '-' :: letter :: rest => reading.short letter rest
    | _ => reading.plain text

def finish (reading : Reading) : Except UsageError Arguments := do
  let reading ← reading.settle
  match reading.command with
  | some command =>
      return ⟨command, reading.propertyFiles, reading.bindings, reading.threads⟩
  | none => .error .missingCommand

end Reading

def read (arguments : List String) : Except UsageError Arguments := do
  (← arguments.foldlM Reading.argument Reading.start).finish

end Arguments

namespace Command

def includesLoad : Command → Bool
  | run => false
  | _ => true

def includesRun : Command → Bool
  | load => false
  | _ => true

end Command

end SpatialWorkload

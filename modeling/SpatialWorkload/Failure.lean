import SpatialWorkload.Config.Error

/-!
# Failures

How a run ends early: with a refusal that has a cause, or by an abort, where a step has no
answer at all and the worker that takes it stops.
-/

namespace SpatialWorkload

/-- The outcome of a step that refused its input or could not be carried out. -/
inductive Stop (ε : Type) where
  | refused (cause : ε)
  | aborted

namespace Stop

variable {ε δ : Type}

def map (f : ε → δ) : Stop ε → Stop δ
  | refused cause => refused (f cause)
  | aborted => aborted

end Stop

def orStop {ε β : Type} : Except ε β → Except (Stop ε) β
  | .ok value => .ok value
  | .error cause => .error (.refused cause)

inductive FailureKind where
  | configuration
  | load
  | io
  | parse
  | backend
  deriving DecidableEq, Repr

namespace FailureKind

def label : FailureKind → String
  | configuration => "Configuration"
  | load => "Load"
  | io => "Io"
  | parse => "Parse"
  | backend => "Backend"

/-- Wrong settings and unusable data end a run for good. -/
def isFatal : FailureKind → Bool
  | configuration => true
  | load => true
  | _ => false

def display (kind : FailureKind) (context : String) : String :=
  s!"{kind.label}: {context}"

end FailureKind

end SpatialWorkload

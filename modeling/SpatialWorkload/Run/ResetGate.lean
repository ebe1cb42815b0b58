/-!
# The reset gate

The first worker at the gate resets the table while the others wait; afterwards everyone
passes.  That the reset is over and that it is known to be over are two facts: the worker
that ran it lowers the bar first and raises the flag in a step of its own.
-/

namespace SpatialWorkload

/-- The bar that lets one worker through to the reset. -/
inductive Bar where
  | closed
  | lifted
  /-- The reset did not come back; nobody passes any more. -/
  | broken
  deriving DecidableEq, Repr

structure ResetGate where
  bar : Bar
  flag : Bool
  deriving DecidableEq, Repr

namespace ResetGate

def fresh : ResetGate := ⟨.closed, false⟩

/-- The reset has come back, and waiting workers pass. -/
def lift (gate : ResetGate) : ResetGate :=
  { gate with bar := .lifted }

/-- The worker that ran the reset says so. -/
def raise (gate : ResetGate) : ResetGate :=
  { gate with flag := true }

/-- The reset was cut short. -/
def spoil (gate : ResetGate) : ResetGate :=
  { gate with bar := .broken }

def isDone (gate : ResetGate) : Bool :=
  gate.flag

/-- Passing the gate in one go, with a reset that comes back or does not. -/
def pass (gate : ResetGate) (comesBack : Bool) : Option Bool × ResetGate :=
  match gate.bar with
  | .lifted => (some false, gate)
  | .broken => (none, gate)
  | .closed => if comesBack then (some true, gate.lift.raise) else (none, gate.spoil)

end ResetGate

end SpatialWorkload

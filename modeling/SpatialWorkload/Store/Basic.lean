import SpatialWorkload.Config.Settings
import SpatialWorkload.Position

/-!
# Backends

A backend keeps tables of positions and answers four kinds of call.  It is a record of
functions on a state, so that every way in which sessions can answer, and every order in
which workers call them, is one choice of the state and of the order of calls.
-/

namespace SpatialWorkload

inductive StoreError where
  /-- The backend refused or failed the call; it may be tried again. -/
  | backend (reason : String)
  /-- The call went through and reported an outcome that should not occur. -/
  | unexpectedState (reason : String)
  deriving DecidableEq, Repr

def StoreError.message : StoreError → String
  | backend reason => s!"backend error: {reason}"
  | unexpectedState reason => s!"unexpected state: {reason}"

/-- The outcome of one call as the driver of a workload counts it. -/
inductive Status where
  | success
  | recoverableError
  | unexpectedState
  deriving DecidableEq, Repr

namespace Status

def isOk : Status → Bool
  | success => true
  | _ => false

def label : Status → String
  | success => "Success"
  | recoverableError => "RecoverableError"
  | unexpectedState => "UnexpectedState"

def ofError : StoreError → Status
  | .backend _ => recoverableError
  | .unexpectedState _ => unexpectedState

def ofResult {β : Type} : Except StoreError β → Status
  | .ok _ => success
  | .error error => ofError error

theorem isOk_ofResult {β : Type} (result : Except StoreError β) :
    (ofResult result).isOk = result.isOk := by
  cases result with
  | ok => rfl
  | error error => cases error <;> rfl

end Status

inductive ScanKind where
  | knn
  | distance
  | polygon
  deriving DecidableEq, Repr

inductive Operation where
  | insert
  | scan (kind : ScanKind)
  deriving DecidableEq, Repr

def Operation.name : Operation → String
  | insert => "INSERT"
  | scan .knn => "SCAN_KNN"
  | scan .distance => "SCAN_BY_DISTANCE"
  | scan .polygon => "SCAN_BY_POLYGON"

/-- What a scan asks for. -/
inductive Query (α : Type) where
  /-- At most `count` positions, nearest first. -/
  | nearest (latitude longitude : α) (count : Nat)
  /-- Every position at most `km` kilometres away. -/
  | within (latitude longitude km : α)
  /-- Every position that a ring contains. -/
  | inside (ring : Ring α)

def Query.kind {α : Type} : Query α → ScanKind
  | nearest .. => .knn
  | within .. => .distance
  | inside .. => .polygon

/-- An answer, a refusal with its error, or an abort of the calling worker. -/
abbrev Answer (β : Type) := Except (Stop StoreError) β

structure Backend (σ : Type) where
  name : String
  openSession : σ → Answer Unit × σ
  reset (table : String) : σ → Answer Unit × σ
  insert (table key : String) (position : Position Float) : σ → Answer Unit × σ
  scan (table : String) (query : Query Float) : σ → Answer (List (Position Float)) × σ

/-- Only plain identifiers name a table inside a statement or a key. -/
def checkTable (table : String) : Except StoreError Unit :=
  (checkIdentifier table).mapError fun error => .backend error.message

end SpatialWorkload

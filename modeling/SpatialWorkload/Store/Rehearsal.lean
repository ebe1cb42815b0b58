import SpatialWorkload.Store.Memory

/-!
# Rehearsed backends

A store in memory whose calls follow a plan: each call of a sort takes the next verdict
of its list and goes through to the store where the verdict is `pass` or the list is used
up.  Calls are counted when they are made and logged when they come back.
-/

namespace SpatialWorkload

inductive Verdict where
  | pass
  | refuse
  | surprise
  /-- The call does not come back. -/
  | abort
  deriving DecidableEq, Repr

structure Plan where
  opens : List Verdict
  resets : List Verdict
  inserts : List Verdict
  scans : List Verdict
  deriving DecidableEq, Repr

/-- A call that came back, with its answer. -/
inductive LogEntry where
  | reset (table : String) (answer : Except StoreError Unit)
  | insert (table key : String) (answer : Except StoreError Unit)
  | scan (table : String) (query : Query Float)
      (answer : Except StoreError (List (Position Float)))

/-- Calls made so far, whether or not they came back. -/
structure CallCounts where
  resets : Nat
  inserts : Nat
  knn : Nat
  distance : Nat
  polygon : Nat
  deriving DecidableEq, Repr

def CallCounts.addScan (counts : CallCounts) : ScanKind → CallCounts
  | .knn => { counts with knn := counts.knn + 1 }
  | .distance => { counts with distance := counts.distance + 1 }
  | .polygon => { counts with polygon := counts.polygon + 1 }

structure Rehearsal where
  plan : Plan
  counts : CallCounts
  /-- The newest entry comes first. -/
  log : List LogEntry
  store : MemoryStore Float

namespace Rehearsal

def ofPlan (plan : Plan) : Rehearsal := ⟨plan, ⟨0, 0, 0, 0, 0⟩, [], .empty⟩

def next : List Verdict → Verdict × List Verdict
  | [] => (.pass, [])
  | verdict :: rest => (verdict, rest)

/-- The answer under a verdict; only `pass` asks the store. -/
def answer {β : Type} (verdict : Verdict) (asked : Except StoreError β × MemoryStore Float)
    (store : MemoryStore Float) : Answer β × MemoryStore Float :=
  match verdict with
  | .pass => (orStop asked.1, asked.2)
  | .refuse => (.error (.refused (.backend "connection reset by peer")), store)
  | .surprise => (.error (.refused (.unexpectedState "0 rows")), store)
  | .abort => (.error .aborted, store)

def entries {β : Type} (entry : Except StoreError β → LogEntry) : Answer β → List LogEntry
  | .ok value => [entry (.ok value)]
  | .error (.refused error) => [entry (.error error)]
  | .error .aborted => []

def openSession (rehearsal : Rehearsal) : Answer Unit × Rehearsal :=
  let (verdict, opens) := next rehearsal.plan.opens
  let (answer, _) := answer verdict (.ok (), rehearsal.store) rehearsal.store
  (answer, { rehearsal with plan := { rehearsal.plan with opens } })

def reset (table : String) (rehearsal : Rehearsal) : Answer Unit × Rehearsal :=
  let (verdict, resets) := next rehearsal.plan.resets
  let (answer, store) :=
    answer verdict (.ok (), rehearsal.store.reset table) rehearsal.store
  (answer,
    { plan := { rehearsal.plan with resets }
      counts := { rehearsal.counts with resets := rehearsal.counts.resets + 1 }
      log := entries (.reset table) answer ++ rehearsal.log
      store })

def insert (table key : String) (position : Position Float) (rehearsal : Rehearsal) :
    Answer Unit × Rehearsal :=
  let (verdict, inserts) := next rehearsal.plan.inserts
  let (answer, store) :=
    answer verdict (rehearsal.store.insert table key position) rehearsal.store
  (answer,
    { plan := { rehearsal.plan with inserts }
      counts := { rehearsal.counts with inserts := rehearsal.counts.inserts + 1 }
      log := entries (.insert table key) answer ++ rehearsal.log
      store })

def scan (table : String) (query : Query Float) (rehearsal : Rehearsal) :
    Answer (List (Position Float)) × Rehearsal :=
  let (verdict, scans) := next rehearsal.plan.scans
  let (answer, store) :=
    answer verdict (.ok (rehearsal.store.scan table query), rehearsal.store) rehearsal.store
  (answer,
    { plan := { rehearsal.plan with scans }
      counts := rehearsal.counts.addScan query.kind
      log := entries (.scan table query) answer ++ rehearsal.log
      store })

def backend : Backend Rehearsal where
  name := "scripted"
  openSession := openSession
  reset := reset
  insert := insert
  scan := scan

end Rehearsal

end SpatialWorkload

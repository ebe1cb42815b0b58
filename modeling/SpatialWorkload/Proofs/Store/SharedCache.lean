import SpatialWorkload.Store.Statements

/-!
# A cache of statements and its sessions

Any number of sessions call one cache.  A session looks for a text in one step, builds it in
a step of its own outside any lock, and adds it in another, so that calls overlap, and which
session steps next is a free choice.  Each step of a call shows nothing, or does at once what
the call does to a map of texts, or only hands over the answer.
-/

namespace SpatialWorkload

namespace StatementCache

variable (cache : StatementCache) (table name text : String)

theorem texts_invalidate (other : String) :
    (cache.invalidate table).texts other = if other = table then [] else cache.texts other := by
  rw [texts, invalidate, Association.lookup_filter_ne]
  split <;> rfl

theorem probe_invalidate (otherTable otherName : String) :
    (cache.invalidate table).probe otherTable otherName =
      if otherTable = table then none else cache.probe otherTable otherName := by
  rw [probe, texts_invalidate]
  split <;> rfl

variable {cache table name}

theorem addIfAbsent_of_present {present : String} (found : cache.probe table name = some present) :
    cache.addIfAbsent table name text = (present, cache) := by
  rw [addIfAbsent, found]

theorem addIfAbsent_of_absent (absent : cache.probe table name = none) :
    cache.addIfAbsent table name text =
      (text, ⟨Association.set table (cache.texts table ++ [(name, text)]) cache.tables⟩) := by
  rw [addIfAbsent, absent]

/-- A text is added to its own table only, behind the others. -/
theorem texts_addIfAbsent_of_absent (absent : cache.probe table name = none) (other : String) :
    (cache.addIfAbsent table name text).2.texts other =
      if other = table then cache.texts table ++ [(name, text)] else cache.texts other := by
  rw [addIfAbsent_of_absent text absent, texts, Association.lookup_set]
  split <;> rfl

theorem probe_addIfAbsent_of_absent (absent : cache.probe table name = none)
    (otherTable otherName : String) :
    (cache.addIfAbsent table name text).2.probe otherTable otherName =
      if otherTable = table ∧ otherName = name then some text
      else cache.probe otherTable otherName := by
  rw [probe, texts_addIfAbsent_of_absent text absent]
  by_cases sameTable : otherTable = table
  · subst sameTable
    rw [if_pos rfl, List.lookup_append]
    by_cases sameName : otherName = name
    · subst sameName
      rw [if_pos ⟨rfl, rfl⟩, ← probe, absent]
      simp
    · have differs : (otherName == name) = false := by simp [sameName]
      rw [if_neg fun both => sameName both.2]
      simp [List.lookup_cons, differs, probe]
  · rw [if_neg sameTable, if_neg fun both => sameTable both.1, probe]

end StatementCache

/-- What a cache stands for: a text or none for every table and name. -/
abbrev TextMap := String → String → Option String

namespace SharedCache

inductive Call where
  | get (table name : String) (build : String → String)
  | invalidate (table : String)

namespace Call

def table : Call → String
  | get table _ _ => table
  | invalidate table => table

/-- The call as one step on a map, with its answer: get or insert, or remove a table. -/
def perform : Call → TextMap → Option String × TextMap
  | get table name build, texts =>
      match texts table name with
      | some present => (some present, texts)
      | none =>
          (some (build table), fun otherTable otherName =>
            if otherTable = table ∧ otherName = name then some (build table)
            else texts otherTable otherName)
  | invalidate table, texts =>
      (none, fun otherTable otherName =>
        if otherTable = table then none else texts otherTable otherName)

variable {texts : TextMap} {table name text : String} {build : String → String}

theorem perform_of_present (present : texts table name = some text) :
    (get table name build).perform texts = (some text, texts) := by
  rw [perform, present]

/-- Adding to the cache unless it is there is the call on the map. -/
theorem perform_of_add (cache : StatementCache) (table name : String)
    (build : String → String) :
    (get table name build).perform cache.probe =
      (some (cache.addIfAbsent table name (build table)).1,
        (cache.addIfAbsent table name (build table)).2.probe) := by
  cases found : cache.probe table name with
  | some present =>
      rw [perform_of_present found, StatementCache.addIfAbsent_of_present _ found]
  | none =>
      have after := StatementCache.probe_addIfAbsent_of_absent (build table) found
      rw [funext fun otherTable => funext (after otherTable),
        StatementCache.addIfAbsent_of_absent _ found]
      simp only [perform, found]

theorem perform_of_invalidate (cache : StatementCache) (table : String) :
    (invalidate table).perform cache.probe = (none, (cache.invalidate table).probe) := by
  refine congrArg (Prod.mk none) ?_
  funext otherTable otherName
  exact (cache.probe_invalidate table otherTable otherName).symm

theorem exists_answer (table name : String) (build : String → String) (texts : TextMap) :
    ∃ text, ((get table name build).perform texts).1 = some text := by
  simp only [perform]
  split <;> exact ⟨_, rfl⟩

/-- What a call for a text answers is in the map afterwards. -/
theorem perform_get (table name : String) (build : String → String) (texts : TextMap) :
    ((get table name build).perform texts).1 =
      ((get table name build).perform texts).2 table name := by
  cases found : texts table name with
  | none => simp only [perform, found, and_self, if_true]
  | some text =>
      rw [perform_of_present found]
      exact found.symm

/-- A text that is there stays until its table is invalidated. -/
theorem perform_stays {call : Call} (present : texts table name = some text)
    (kept : call ≠ invalidate table) : (call.perform texts).2 table name = some text := by
  cases call with
  | get otherTable otherName build =>
      cases found : texts otherTable otherName with
      | some other => rwa [perform_of_present found]
      | none =>
          have differs : ¬(table = otherTable ∧ name = otherName) := by
            rintro ⟨rfl, rfl⟩
            rw [present] at found
            cases found
          simp only [perform, found, if_neg differs, present]
  | invalidate other =>
      have differs : table ≠ other := fun same => kept (congrArg invalidate same.symm)
      simp only [perform, if_neg differs, present]

/-- A text comes into the map by the builder of a call for it. -/
theorem perform_origin {call : Call} (after : (call.perform texts).2 table name = some text) :
    texts table name = some text ∨ ∃ build, call = get table name build ∧ text = build table := by
  cases call with
  | get otherTable otherName build =>
      cases found : texts otherTable otherName with
      | some other =>
          rw [perform_of_present found] at after
          exact Or.inl after
      | none =>
          simp only [perform, found] at after
          split at after
          · rename_i same
            obtain ⟨rfl, rfl⟩ := same
            exact Or.inr ⟨build, rfl, (Option.some.inj after).symm⟩
          · exact Or.inl after
  | invalidate other =>
      simp only [perform] at after
      split at after
      · cases after
      · exact Or.inl after

end Call

/-- What a session is at; the number tells its call from all other calls. -/
inductive Stage where
  | idle
  | probing (number : Nat) (table name : String) (build : String → String)
  | building (number : Nat) (table name : String) (build : String → String)
  | adding (number : Nat) (table name : String) (build : String → String) (text : String)
      (built : text = build table)
  | invalidating (number : Nat) (table : String)
  | leaving (number : Nat) (answer : Option String)

inductive Event where
  | called (number : Nat) (call : Call)
  /-- The last locked step of a call. -/
  | settled (number : Nat) (call : Call) (answer : Option String)
  | returned (number : Nat) (answer : Option String)

def Event.number : Event → Nat
  | called number _ => number
  | settled number _ _ => number
  | returned number _ => number

namespace Stage

def entering (number : Nat) : Call → Stage
  | .get table name build => probing number table name build
  | .invalidate table => invalidating number table

def pending? : Stage → Option (Nat × Call)
  | probing number table name build => some (number, .get table name build)
  | building number table name build => some (number, .get table name build)
  | adding number table name build _ _ => some (number, .get table name build)
  | invalidating number table => some (number, .invalidate table)
  | _ => none

def step (cache : StatementCache) : Stage → StatementCache × Stage × List Event
  | idle => (cache, idle, [])
  | probing number table name build =>
      match cache.probe table name with
      | some text =>
          (cache, leaving number (some text),
            [.settled number (.get table name build) (some text)])
      | none => (cache, building number table name build, [])
  | building number table name build =>
      (cache, adding number table name build (build table) rfl, [])
  | adding number table name build text _ =>
      let (found, after) := cache.addIfAbsent table name text
      (after, leaving number (some found),
        [.settled number (.get table name build) (some found)])
  | invalidating number table =>
      (cache.invalidate table, leaving number none,
        [.settled number (.invalidate table) none])
  | leaving number answer => (cache, idle, [.returned number answer])

inductive Advance (cache : StatementCache) (stage : Stage) :
    StatementCache → Stage → List Event → Prop where
  | quiet {after : Stage} (same : after.pending? = stage.pending?)
      (stays : ∀ number answer, after ≠ leaving number answer) :
      Advance cache stage cache after []
  /-- The call does to the map what it does in one step. -/
  | settles {next : StatementCache} {number : Nat} {call : Call} {answer : Option String}
      (pending : stage.pending? = some (number, call))
      (performed : call.perform cache.probe = (answer, next.probe)) :
      Advance cache stage next (leaving number answer) [.settled number call answer]
  | leaves {number : Nat} {answer : Option String} (is : stage = leaving number answer) :
      Advance cache stage cache idle [.returned number answer]

theorem step_advance (cache : StatementCache) (stage : Stage) :
    Advance cache stage (stage.step cache).1 (stage.step cache).2.1 (stage.step cache).2.2 := by
  cases stage with
  | idle => exact .quiet rfl nofun
  | probing number table name build =>
      cases found : cache.probe table name with
      | none =>
          simp only [step, found]
          exact .quiet rfl nofun
      | some text =>
          simp only [step, found]
          exact .settles rfl (Call.perform_of_present found)
  | building number table name build => exact .quiet rfl nofun
  | adding number table name build text built =>
      subst built
      exact .settles rfl (Call.perform_of_add cache table name build)
  | invalidating number table => exact .settles rfl (Call.perform_of_invalidate cache table)
  | leaving number answer => exact .leaves rfl

def table? (stage : Stage) : Option String :=
  stage.pending?.map fun pending => pending.2.table

/-- A step leaves all other tables as they were. -/
theorem texts_step (cache : StatementCache) (stage : Stage) {table : String}
    (elsewhere : stage.table? ≠ some table) :
    (stage.step cache).1.texts table = cache.texts table := by
  cases stage with
  | idle | building | leaving => rfl
  | probing number other name build =>
      simp only [step]
      split <;> rfl
  | adding number other name build text built =>
      have differs : table ≠ other := fun same => elsewhere (congrArg some same.symm)
      cases found : cache.probe other name with
      | some present => simp only [step, StatementCache.addIfAbsent_of_present _ found]
      | none =>
          simp only [step]
          rw [StatementCache.texts_addIfAbsent_of_absent _ found, if_neg differs]
  | invalidating number other =>
      have differs : table ≠ other := fun same => elsewhere (congrArg some same.symm)
      exact (cache.texts_invalidate other table).trans (if_neg differs)

end Stage

end SharedCache

structure SharedCache where
  cache : StatementCache
  calls : Nat
  stages : List SharedCache.Stage
  /-- What the callers saw and the last locked step of each call, the newest first. -/
  history : List SharedCache.Event

namespace SharedCache

def opening (crew : Nat) : SharedCache :=
  ⟨.empty, 0, List.replicate crew .idle, []⟩

inductive Move where
  | call (session : Nat) (call : Call)
  | step (session : Nat)

/-- One move; a session that is not there or not free for a call does nothing. -/
def make (shared : SharedCache) : Move → SharedCache
  | .call session call =>
      match shared.stages[session]? with
      | some .idle =>
          ⟨shared.cache, shared.calls + 1,
            shared.stages.set session (.entering shared.calls call),
            .called shared.calls call :: shared.history⟩
      | _ => shared
  | .step session =>
      match shared.stages[session]? with
      | some stage =>
          let (cache, after, news) := stage.step shared.cache
          ⟨cache, shared.calls, shared.stages.set session after, news ++ shared.history⟩
      | none => shared

def run (moves : List Move) (shared : SharedCache) : SharedCache :=
  moves.foldl make shared

/-- A session that is left alone does what `getOrBuild` does in one go. -/
theorem run_alone (cache : StatementCache) (table name : String) (build : String → String) :
    let call := Call.get table name build
    let (found, after) := cache.getOrBuild table name build
    run [.call 0 call, .step 0, .step 0, .step 0, .step 0] ⟨cache, 0, [.idle], []⟩ =
      ⟨after, 1, [.idle],
        [.returned 0 (some found), .settled 0 call (some found), .called 0 call]⟩ := by
  cases found : cache.probe table name with
  | some text =>
      simp [run, make, Stage.entering, Stage.step, StatementCache.getOrBuild, found]
  | none =>
      simp [run, make, Stage.entering, Stage.step, StatementCache.getOrBuild, found]

end SharedCache

end SpatialWorkload

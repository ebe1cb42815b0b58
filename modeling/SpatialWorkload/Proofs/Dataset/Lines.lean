import SpatialWorkload.Dataset
import SpatialWorkload.Proofs.Source

/-!
# Reading line by line

What one line adds to the positions that were read before it.  Reading is a fold of this over
the lines, which ends where a line cannot be read or the limit is reached.
-/

namespace SpatialWorkload

def LoadError.line? : LoadError → Option Nat
  | cannotOpen _ _ => none
  | unreadable line _ => some line
  | malformed line _ => some line

namespace Dataset

variable {options : Options} {skipMalformed : Bool} {number : Nat}
  {read next : Array (Position Float)} {line : SourceLine} {lines rest : List SourceLine}
  {error : LoadError}

def readLine (skipMalformed : Bool) (number : Nat) (read : Array (Position Float)) :
    SourceLine → Except LoadError (Array (Position Float))
  | .error fault => .error (.unreadable number fault)
  | .ok text =>
      if Text.isBlankText text then .ok read
      else
        match Record.read (Text.trimEnd text) read.size with
        | .ok position => .ok (read.push position)
        | .error reason =>
            if skipMalformed then .ok read else .error (.malformed number reason)

theorem collect_cons (options : Options) (number : Nat) (read : Array (Position Float))
    (line : SourceLine) (rest : List SourceLine) :
    collect options number read (line :: rest) =
      if options.isFull read.size then .ok read
      else
        (readLine options.skipMalformed number read line).bind fun next =>
          collect options (number + 1) next rest := by
  conv => lhs; unfold collect
  split
  · rfl
  · cases line with
    | error fault => rfl
    | ok text =>
        simp only [readLine]
        split
        · rfl
        · cases Record.read (Text.trimEnd text) read.size with
          | ok position => rfl
          | error reason => cases options.skipMalformed <;> rfl

theorem collect_cons_unlimited (skipMalformed : Bool) (number : Nat)
    (read : Array (Position Float)) (line : SourceLine) (rest : List SourceLine) :
    collect ⟨none, skipMalformed⟩ number read (line :: rest) =
      (readLine skipMalformed number read line).bind fun next =>
        collect ⟨none, skipMalformed⟩ (number + 1) next rest :=
  collect_cons ⟨none, skipMalformed⟩ number read line rest

/-- A line that can be read adds its record, or nothing. -/
theorem readLine_cases (came : readLine skipMalformed number read line = .ok next) :
    next = read ∨ ∃ text position, line = .ok text ∧
      Record.read (Text.trimEnd text) read.size = .ok position ∧ next = read.push position := by
  cases line with
  | error fault => cases came
  | ok text =>
      unfold readLine at came
      dsimp only at came
      split at came
      · cases came
        exact Or.inl rfl
      · split at came
        · rename_i position recorded
          cases came
          exact Or.inr ⟨text, position, rfl, recorded, rfl⟩
        · split at came
          · cases came
            exact Or.inl rfl
          · cases came

/-- A line that cannot be read is the one named. -/
theorem line?_of_readLine (came : readLine skipMalformed number read line = .error error) :
    error.line? = some number := by
  cases line with
  | error fault =>
      cases came
      rfl
  | ok text =>
      unfold readLine at came
      dsimp only at came
      split at came
      · cases came
      · split at came
        · cases came
        · split at came
          · cases came
          · cases came
            rfl

theorem collect_of_isFull (full : options.isFull read.size = true) (number : Nat)
    (lines : List SourceLine) : collect options number read lines = .ok read := by
  cases lines with
  | nil => rfl
  | cons line rest => rw [collect_cons, if_pos full]

/-- Reading a text is reading its first lines, and then the others from there. -/
theorem collect_append (options : Options) (number : Nat) (read : Array (Position Float))
    (lines rest : List SourceLine) :
    collect options number read (lines ++ rest) =
      (collect options number read lines).bind fun next =>
        collect options (number + lines.length) next rest := by
  induction lines generalizing number read with
  | nil => rfl
  | cons line lines ih =>
      rw [List.cons_append, collect_cons, collect_cons]
      split
      · rename_i full
        exact (collect_of_isFull full _ rest).symm
      · cases readLine options.skipMalformed number read line with
        | error error => rfl
        | ok next =>
            rw [List.length_cons, Nat.add_comm lines.length 1, ← Nat.add_assoc]
            exact ih (number + 1) next

/-- Reading fails at the first line that cannot be read, and before the limit is reached. -/
theorem exists_line_of_collect (failed : collect options number read lines = .error error) :
    ∃ before line rest next, lines = before ++ line :: rest ∧
      collect options number read before = .ok next ∧ options.isFull next.size = false ∧
      readLine options.skipMalformed (number + before.length) next line = .error error := by
  induction lines generalizing number read with
  | nil => cases failed
  | cons line rest ih =>
      rw [collect_cons] at failed
      split at failed
      · cases failed
      · rename_i notFull
        cases added : readLine options.skipMalformed number read line with
        | error cause =>
            rw [added] at failed
            cases failed
            exact ⟨[], line, rest, read, rfl, rfl, Bool.eq_false_iff.mpr notFull, added⟩
        | ok next =>
            rw [added] at failed
            obtain ⟨before, last, later, final, same, came, below, cause⟩ := ih failed
            refine ⟨line :: before, last, later, final, congrArg (line :: ·) same, ?_, below, ?_⟩
            · rw [collect_cons, if_neg notFull, added]
              exact came
            · rw [List.length_cons, Nat.add_comm before.length 1, ← Nat.add_assoc]
              exact cause

theorem load_eq_ok_iff {options : Options} {dataset : Dataset} :
    load options lines = .ok dataset ↔
      collect options 2 #[] lines.tail = .ok dataset.positions := by
  unfold load
  cases collect options 2 #[] lines.tail with
  | error error => exact ⟨nofun, nofun⟩
  | ok positions =>
      refine ⟨fun came => ?_, fun came => ?_⟩
      · cases came
        rfl
      · cases came
        rfl

theorem load_eq_error_iff {options : Options} :
    load options lines = .error error ↔ collect options 2 #[] lines.tail = .error error := by
  unfold load
  cases collect options 2 #[] lines.tail with
  | error cause => exact ⟨fun came => by cases came; rfl, fun came => by cases came; rfl⟩
  | ok positions => exact ⟨nofun, nofun⟩

end Dataset

end SpatialWorkload

import SpatialWorkload.Proofs.Dataset.Lines
import SpatialWorkload.Proofs.Run.Prepare

/-!
# Datasets up to a limit

A limit on records cuts a dataset short and does nothing else: what is read with it is what
is read without it, up to so many records.  A line that cannot be read is met only where the
limit has not been reached before it, and what stands behind the record that reaches the
limit does not matter.
-/

namespace SpatialWorkload.Dataset

variable {skipMalformed : Bool} {number limit : Nat} {read all : Array (Position Float)}
  {lines : List SourceLine} {error : LoadError}

def first (dataset : Dataset) (count : Nat) : Dataset :=
  ⟨dataset.positions.extract 0 count⟩

theorem isFull_some_iff {skipMalformed : Bool} {limit count : Nat} :
    Options.isFull ⟨some limit, skipMalformed⟩ count = true ↔ limit ≤ count :=
  decide_eq_true_iff

theorem extract_of_le {count : Nat} (within : read.size ≤ count) : read.extract 0 count = read := by
  rw [Array.extract_eq_self_of_le within]

theorem extract_of_prefix (begins : read.toList <+: all.toList) :
    all.extract 0 read.size = read := by
  refine Array.ext' ?_
  rw [Array.toList_extract]
  exact (List.prefix_iff_eq_take.mp begins).symm

/-- Reading on takes nothing away. -/
theorem prefix_of_collect (came : collect ⟨none, skipMalformed⟩ number read lines = .ok all) :
    read.toList <+: all.toList := by
  induction lines generalizing number read with
  | nil =>
      cases came
      exact List.prefix_refl _
  | cons line lines ih =>
      rw [collect_cons_unlimited] at came
      cases added : readLine skipMalformed number read line with
      | error error =>
          rw [added] at came
          cases came
      | ok next =>
          rw [added] at came
          have later := ih came
          rcases readLine_cases added with rfl | ⟨text, position, -, -, rfl⟩
          · exact later
          · rw [Array.toList_push] at later
            exact (List.prefix_append _ _).trans later

/-- With a limit the first of all records are read. -/
theorem collect_limited (came : collect ⟨none, skipMalformed⟩ number read lines = .ok all)
    (within : read.size ≤ limit) :
    collect ⟨some limit, skipMalformed⟩ number read lines = .ok (all.extract 0 limit) := by
  induction lines generalizing number read with
  | nil =>
      cases came
      rw [extract_of_le within]
      rfl
  | cons line lines ih =>
      rcases Nat.lt_or_eq_of_le within with below | reached
      · rw [collect_cons, if_neg (mt isFull_some_iff.mp (Nat.not_le.mpr below))]
        rw [collect_cons_unlimited] at came
        dsimp only
        cases added : readLine skipMalformed number read line with
        | error error =>
            rw [added] at came
            cases came
        | ok next =>
            rw [added] at came
            refine ih came ?_
            rcases readLine_cases added with rfl | ⟨text, position, -, -, rfl⟩
            · exact within
            · rw [Array.size_push]
              exact below
      · subst reached
        rw [collect_of_isFull (isFull_some_iff.mpr (Nat.le_refl _)),
          extract_of_prefix (prefix_of_collect came)]

/-- A failure comes before the limit or not at all. -/
theorem collect_limited_of_error
    (failed : collect ⟨none, skipMalformed⟩ number read lines = .error error) :
    ∃ before line rest next, lines = before ++ line :: rest ∧
      error.line? = some (number + before.length) ∧
      collect ⟨none, skipMalformed⟩ number read before = .ok next ∧
      collect ⟨none, skipMalformed⟩ number read (before ++ [line]) = .error error ∧
      ∀ limit, read.size ≤ limit →
        collect ⟨some limit, skipMalformed⟩ number read lines =
          if next.size < limit then .error error else .ok (next.extract 0 limit) := by
  obtain ⟨before, line, rest, next, same, came, -, cause⟩ := exists_line_of_collect failed
  refine ⟨before, line, rest, next, same, line?_of_readLine cause, came, ?_,
    fun limit within => ?_⟩
  · rw [collect_append, came]
    change collect _ _ next [line] = _
    rw [collect_cons_unlimited, cause]
    rfl
  · rw [same, collect_append, collect_limited came within]
    change collect _ _ (next.extract 0 limit) (line :: rest) = _
    split
    · rename_i below
      rw [extract_of_le (Nat.le_of_lt below), collect_cons,
        if_neg (mt isFull_some_iff.mp (Nat.not_le.mpr below)), cause]
      rfl
    · rename_i notBelow
      refine collect_of_isFull (isFull_some_iff.mpr ?_) _ _
      rw [Array.size_extract, Nat.min_eq_left (Nat.le_of_not_lt notBelow)]
      exact Nat.le_refl _

/-- What is read up to the limit does not change when the source goes on. -/
theorem load_append {dataset : Dataset} (header : lines ≠ [])
    (came : load ⟨some limit, skipMalformed⟩ lines = .ok dataset)
    (reached : limit ≤ dataset.size) (rest : List SourceLine) :
    load ⟨some limit, skipMalformed⟩ (lines ++ rest) = .ok dataset := by
  rw [load_eq_ok_iff] at came ⊢
  rw [List.tail_append_of_ne_nil header, collect_append, came]
  exact collect_of_isFull (isFull_some_iff.mpr reached) _ _

theorem load_limited {dataset : Dataset}
    (came : load ⟨none, skipMalformed⟩ lines = .ok dataset) (limit : Nat) :
    load ⟨some limit, skipMalformed⟩ lines = .ok (dataset.first limit) := by
  rw [load_eq_ok_iff] at came ⊢
  exact collect_limited came (Nat.zero_le limit)

theorem load_limited_of_error (failed : load ⟨none, skipMalformed⟩ lines = .error error) :
    ∃ before line rest dataset, lines = before ++ line :: rest ∧
      error.line? = some (before.length + 1) ∧
      load ⟨none, skipMalformed⟩ before = .ok dataset ∧
      load ⟨none, skipMalformed⟩ (before ++ [line]) = .error error ∧
      ∀ limit, load ⟨some limit, skipMalformed⟩ lines =
        if dataset.size < limit then .error error else .ok (dataset.first limit) := by
  rw [load_eq_error_iff] at failed
  cases lines with
  | nil => cases failed
  | cons header lines =>
      obtain ⟨before, line, rest, next, same, place, came, fails, cut⟩ :=
        collect_limited_of_error failed
      refine ⟨header :: before, line, rest, ⟨next⟩, congrArg (header :: ·) same, ?_,
        load_eq_ok_iff.mpr came, load_eq_error_iff.mpr fails, fun limit => ?_⟩
      · rw [place, List.length_cons]
        exact congrArg some (by omega)
      · rw [load, cut limit (Nat.zero_le limit)]
        change Except.map _ (if next.size < limit then _ else _) =
          if next.size < limit then _ else _
        split <;> rfl

/--
What is read of a file up to a limit is what is read of it without one, cut to so many
records, and a failure only where it comes before the limit: its line is the first that
cannot be read, behind fewer records than that.  From the line feed behind the record that
reaches the limit on, the file may hold what it will; at a limit of zero, anything at all.
-/
theorem load_stops_at_limit (skipMalformed : Bool) (bytes : List UInt8) :
    let lines := SourceLine.ofBytes bytes
    (∀ dataset, load ⟨none, skipMalformed⟩ lines = .ok dataset →
      ∀ limit, load ⟨some limit, skipMalformed⟩ lines = .ok (dataset.first limit)) ∧
    (∀ error, load ⟨none, skipMalformed⟩ lines = .error error →
      ∃ before line rest dataset, lines = before ++ line :: rest ∧
        error.line? = some (before.length + 1) ∧
        load ⟨none, skipMalformed⟩ before = .ok dataset ∧
        load ⟨none, skipMalformed⟩ (before ++ [line]) = .error error ∧
        ∀ limit, load ⟨some limit, skipMalformed⟩ lines =
          if dataset.size < limit then .error error else .ok (dataset.first limit)) ∧
    (∀ limit dataset,
      load ⟨some limit, skipMalformed⟩ (SourceLine.ofBytes (bytes ++ [10])) = .ok dataset →
        limit ≤ dataset.size → ∀ rest,
          load ⟨some limit, skipMalformed⟩ (SourceLine.ofBytes (bytes ++ 10 :: rest)) =
            .ok dataset) ∧
    load ⟨some 0, skipMalformed⟩ lines = .ok ⟨#[]⟩ := by
  intro lines
  refine ⟨fun dataset came => load_limited came, fun error failed => load_limited_of_error failed,
    ?_, ?_⟩
  · intro limit dataset came reached rest
    rw [SourceLine.ofBytes_append]
    exact load_append (SourceLine.ofBytes_lineFeed_ne_nil bytes) came reached _
  · rw [load_eq_ok_iff]
    exact collect_of_isFull (isFull_some_iff.mpr (Nat.zero_le _)) _ _

def oneRow : List UInt8 :=
  "id\n7,,,2008-02-02 13:30:49,,,39.9,116.4".toUTF8.toList

/-- That record, and a line that is no text behind it. -/
def spoiledRow : List UInt8 :=
  oneRow ++ 10 :: [255, 10]

/-- A limit of one never meets the line that is no text, a limit of two does. -/
theorem load_stops_at_limit_before_spoiled_line :
    ∃ dataset error, dataset.size = 1 ∧
      load ⟨none, true⟩ (SourceLine.ofBytes (oneRow ++ [10])) = .ok dataset ∧
      load ⟨some 1, true⟩ (SourceLine.ofBytes (oneRow ++ [10])) = .ok (dataset.first 1) ∧
      load ⟨some 1, true⟩ (SourceLine.ofBytes spoiledRow) = .ok (dataset.first 1) ∧
      load ⟨none, true⟩ (SourceLine.ofBytes spoiledRow) = .error error ∧
      load ⟨some 2, true⟩ (SourceLine.ofBytes spoiledRow) = .error error := by
  have judged : ((load ⟨none, true⟩ (SourceLine.ofBytes (oneRow ++ [10]))).toOption.any
      fun dataset => dataset.size == 1) = true := by
    decide +kernel
  obtain ⟨dataset, loaded, size⟩ := (Option.any_eq_true _ _).mp judged
  replace loaded := Workload.eq_ok_of_toOption loaded
  replace size := beq_iff_eq.mp size
  obtain ⟨error, failed, third⟩ : ∃ error,
      load ⟨none, true⟩ (SourceLine.ofBytes spoiledRow) = .error error ∧
        error.line? = some 3 := by
    have judged : (match load ⟨none, true⟩ (SourceLine.ofBytes spoiledRow) with
        | .error error => error.line? == some 3
        | .ok _ => false) = true := by
      decide +kernel
    split at judged
    · rename_i error failed
      exact ⟨error, failed, beq_iff_eq.mp judged⟩
    · cases judged
  have whole := (load_stops_at_limit true (oneRow ++ [10])).1 dataset loaded 1
  have reached : 1 ≤ (dataset.first 1).size := by
    have count : (dataset.first 1).size = min 1 dataset.size := Array.size_extract ..
    rw [count, size]
    exact Nat.le_refl 1
  have cut := (load_stops_at_limit true oneRow).2.2.1 1 _ whole reached [255, 10]
  obtain ⟨before, line, rest, other, same, place, came, -, limited⟩ :=
    (load_stops_at_limit true spoiledRow).2.1 error failed
  -- The lines before the third are those of the sound text.
  have length : before.length = 2 := by
    rw [third] at place
    exact (Nat.succ.inj (Option.some.inj place)).symm
  have lines : (SourceLine.ofBytes (oneRow ++ [10])).length = 2 := by decide +kernel
  rw [spoiledRow, SourceLine.ofBytes_append] at same
  have equal := List.append_inj_left same (lines.trans length.symm)
  rw [← equal, loaded] at came
  cases came
  have second := limited 2
  rw [if_pos (by rw [size]; decide)] at second
  exact ⟨dataset, error, size, loaded, whole, cut, failed, second⟩

end SpatialWorkload.Dataset

import SpatialWorkload.CommandLine.Execution
import SpatialWorkload.Proofs.Config.Sound
import SpatialWorkload.Proofs.Dataset.Texts

/-!
# Insert ranges

The insert range is checked twice, against the record count when the configuration is read,
and against the dataset once it is loaded.  The second check says what it should in numbers
without bounds, and where there is a record count it refuses no range for which the source has
records enough: the limit on records lies behind the end of every range that passed the first
check.
-/

namespace SpatialWorkload

namespace Config

variable {config : Config} {length : Nat}

def wantedCount (config : Config) (length : Nat) : Nat :=
  match config.insertCount with
  | some count => count.toNat
  | none => length - config.insertStart.toNat

/-- The check of a range against a length, in numbers without bounds. -/
theorem resolveInsertRange_wanted (config : Config) (countable : length < UInt64.size) :
    ∃ count : UInt64, count.toNat = config.wantedCount length ∧
      config.resolveInsertRange length =
        if count = 0 then .error .emptyInsertRange
        else if UInt64.size ≤ config.insertStart.toNat + count.toNat then
          .error .insertEndOverflows
        else if length < config.insertStart.toNat + count.toNat then
          .error (.datasetTooShort length (config.insertStart.toNat + count.toNat))
        else .ok (config.insertStart, count) := by
  unfold wantedCount resolveInsertRange
  cases config.insertCount with
  | some count => exact ⟨count, rfl, rfl⟩
  | none =>
      refine ⟨_, ?_, rfl⟩
      exact UInt64.toNat_ofNat_of_lt' (Nat.lt_of_le_of_lt (Nat.sub_le _ _) countable)

theorem resolveInsertRange_eq_ok_iff (countable : length < UInt64.size) {start count : UInt64} :
    config.resolveInsertRange length = .ok (start, count) ↔
      start = config.insertStart ∧ count.toNat = config.wantedCount length ∧
        1 ≤ count.toNat ∧ start.toNat + count.toNat ≤ length := by
  obtain ⟨wanted, isWanted, resolved⟩ := config.resolveInsertRange_wanted countable
  rw [resolved, ← isWanted]
  constructor
  · intro came
    split at came
    · cases came
    · rename_i nonempty
      split at came
      · cases came
      · split at came
        · cases came
        · rename_i within
          cases came
          exact ⟨rfl, rfl, Word.toNat_pos nonempty, Nat.le_of_not_lt within⟩
  · rintro ⟨rfl, same, positive, within⟩
    cases UInt64.toNat_inj.mp same
    have nonempty : count ≠ 0 := fun zero => by
      rw [zero] at positive
      exact Nat.not_succ_le_zero 0 positive
    have fits := Nat.not_le.mpr (Nat.lt_of_le_of_lt within countable)
    rw [if_neg nonempty, if_neg fits, if_neg (Nat.not_lt.mpr within)]

/-- A range is refused for being empty or for its end, and for nothing else. -/
theorem exists_resolveInsertRange_error_iff (countable : length < UInt64.size) :
    (∃ cause, config.resolveInsertRange length = .error cause) ↔
      config.wantedCount length = 0 ∨
        length < config.insertStart.toNat + config.wantedCount length := by
  obtain ⟨count, isWanted, -⟩ := config.resolveInsertRange_wanted countable
  have accepted : config.resolveInsertRange length = .ok (config.insertStart, count) ↔ _ :=
    resolveInsertRange_eq_ok_iff countable
  rw [← isWanted] at accepted ⊢
  cases came : config.resolveInsertRange length with
  | error cause =>
      rw [came] at accepted
      refine iff_of_true ⟨cause, rfl⟩ ?_
      by_contra fine
      obtain ⟨nonempty, within⟩ := not_or.mp fine
      cases accepted.mpr ⟨rfl, rfl, Nat.pos_of_ne_zero nonempty, Nat.le_of_not_lt within⟩
  | ok range =>
      refine iff_of_false (fun ⟨_, same⟩ => nomatch same) ?_
      obtain ⟨start, resolved⟩ := range
      obtain ⟨rfl, same, positive, within⟩ := (resolveInsertRange_eq_ok_iff countable).mp came
      rw [isWanted, ← same]
      exact not_or.mpr ⟨Nat.ne_of_gt positive, Nat.not_lt.mpr within⟩

/-- Where the end of the range is a word, no check finds it overflown. -/
theorem resolveInsertRange_ne_overflows {cause : ConfigError} (countable : length < UInt64.size)
    (fits : config.insertStart.toNat + config.wantedCount length < UInt64.size)
    (refused : config.resolveInsertRange length = .error cause) : cause ≠ .insertEndOverflows := by
  rintro rfl
  obtain ⟨count, isWanted, resolved⟩ := config.resolveInsertRange_wanted countable
  rw [← isWanted] at fits
  rw [resolved, if_neg (Nat.not_le.mpr fits)] at refused
  split at refused
  · cases refused
  · split at refused <;> cases refused

/-- With a record count, the insert count is known, and so is the end of the range. -/
theorem IsSound.exists_insertCount (sound : config.IsSound) (given : config.recordCount ≠ 0) :
    ∃ count, config.insertCount = some count ∧
      (∀ length, config.wantedCount length = count.toNat) ∧
      config.insertStart.toNat + count.toNat ≤ config.recordCount.toNat := by
  obtain ⟨count, counted, within⟩ := sound.counted given
  exact ⟨count, counted, fun length => by rw [wantedCount, counted], within⟩

theorem loadLimit_eq_some_iff {limit : Nat} :
    config.loadLimit = some limit ↔
      config.recordCount ≠ 0 ∧ limit = config.recordCount.toNat := by
  unfold loadLimit
  split
  · rename_i none
    exact iff_of_false nofun fun given => given.1 none
  · rename_i given
    rw [Option.some.injEq, eq_comm]
    exact (and_iff_right given).symm

/-- A range that does not resolve keeps the workload from being made ready, as a refusal. -/
theorem prepare_of_error {dataset : Dataset} {cause : ConfigError}
    (refused : config.resolveInsertRange dataset.size = .error cause) :
    Workload.prepare config dataset = .error (.refused cause) := by
  unfold Workload.prepare
  rw [refused]
  rfl

/--
Whatever configuration was read, and whatever was loaded up to its limit: the insert range
begins at the insert start, is not empty and ends within the dataset, or it is refused as a
setting, exactly if it is empty or its end, a number without bounds, lies behind the dataset.
With a record count the count of the range is known beforehand and its end lies within the
record count, so that it is accepted exactly if it is not empty and the source has records
enough, and the records in it are those of the source.
-/
theorem insert_range_resolves (properties : Properties) (config : Config)
    (accepted : ofProperties properties = .ok config) (skipMalformed : Bool)
    (bytes : List UInt8) (dataset : Dataset)
    (loaded : Dataset.load ⟨config.loadLimit, skipMalformed⟩ (SourceLine.ofBytes bytes) =
      .ok dataset)
    (countable : dataset.size < UInt64.size) :
    let texts := Dataset.recordTexts (SourceLine.ofBytes bytes)
    (∀ start count, config.resolveInsertRange dataset.size = .ok (start, count) →
      start = config.insertStart ∧ count.toNat = config.wantedCount dataset.size ∧
        1 ≤ count.toNat ∧ start.toNat + count.toNat ≤ dataset.size) ∧
    ((∃ cause, config.resolveInsertRange dataset.size = .error cause) ↔
      config.wantedCount dataset.size = 0 ∨
        dataset.size < config.insertStart.toNat + config.wantedCount dataset.size) ∧
    (∀ cause, config.resolveInsertRange dataset.size = .error cause →
      Workload.prepare config dataset = .error (.refused cause) ∧
        (Failure.settings cause).kind = .configuration ∧
        (config.recordCount ≠ 0 → cause ≠ .insertEndOverflows)) ∧
    (config.recordCount ≠ 0 → ∃ count, config.insertCount = some count ∧
      config.insertStart.toNat + count.toNat ≤ config.recordCount.toNat ∧
      (config.resolveInsertRange dataset.size = .ok (config.insertStart, count) ↔
        1 ≤ count.toNat ∧ config.insertStart.toNat + count.toNat ≤ texts.length) ∧
      (config.insertStart.toNat + count.toNat ≤ texts.length →
        ∀ place < config.insertStart.toNat + count.toNat, ∃ text position,
          texts[place]? = some text ∧ dataset.positions[place]? = some position ∧
            Record.read text place = .ok position)) := by
  intro texts
  obtain ⟨_, read⟩ := isReadFrom_of_ofProperties accepted
  have sound := read.isSound
  refine ⟨fun start count => (resolveInsertRange_eq_ok_iff countable).mp,
    exists_resolveInsertRange_error_iff countable, fun cause refused => ⟨prepare_of_error refused,
      rfl, fun given => ?_⟩, fun given => ?_⟩
  · obtain ⟨count, -, wanted, within⟩ := sound.exists_insertCount given
    refine resolveInsertRange_ne_overflows countable ?_ refused
    rw [wanted]
    exact Nat.lt_of_le_of_lt within config.recordCount.toNat_lt
  · obtain ⟨count, counted, wanted, within⟩ := sound.exists_insertCount given
    -- The limit lies behind the end of the range.
    have reaches (enough : config.insertStart.toNat + count.toNat ≤ texts.length) :
        config.insertStart.toNat + count.toNat ≤ dataset.size := by
      refine Dataset.le_size_of_load loaded enough fun limit isLimit => ?_
      rw [(loadLimit_eq_some_iff.mp isLimit).2]
      exact within
    refine ⟨count, counted, within, ?_, fun enough place below => ?_⟩
    · rw [resolveInsertRange_eq_ok_iff countable, wanted]
      constructor
      · rintro ⟨-, -, positive, ends⟩
        exact ⟨positive, Nat.le_trans ends (Dataset.size_le_length_recordTexts loaded)⟩
      · rintro ⟨positive, enough⟩
        exact ⟨rfl, rfl, positive, reaches enough⟩
    · exact Dataset.exists_recordText loaded (Nat.lt_of_lt_of_le below (reaches enough))

def lastOfTwo : Properties :=
  .ofList [("recordcount", "2"), ("insertstart", "1")]

/-- Three records, one of them behind the limit of two, and a line that is none. -/
def threeRecords : List UInt8 :=
  ("id\n7,,,2008-02-02 13:30:49,,,39.9,116.4\n7,noon\n8,,,2008-02-02 13:31:49,,,-90,180\n" ++
    "9,,,2008-02-02 13:32:49,,,0,0\n").toUTF8.toList

theorem insert_range_resolves_last_of_two :
    ∃ config dataset, ofProperties lastOfTwo = .ok config ∧
      Dataset.load ⟨config.loadLimit, true⟩ (SourceLine.ofBytes threeRecords) = .ok dataset ∧
      dataset.size < UInt64.size ∧ config.recordCount ≠ 0 ∧
      config.resolveInsertRange dataset.size = .ok (1, 1) ∧
      ∃ text position, (Dataset.recordTexts (SourceLine.ofBytes threeRecords))[1]? = some text ∧
        dataset.positions[1]? = some position ∧ Record.read text 1 = .ok position := by
  have settings : ((ofProperties lastOfTwo).toOption.any fun config =>
      config.recordCount == 2 && config.insertStart == 1 && config.insertCount == some 1) =
        true := by
    decide +kernel
  obtain ⟨config, accepted, parts⟩ := (Option.any_eq_true _ _).mp settings
  replace accepted := Workload.eq_ok_of_toOption accepted
  simp only [Bool.and_eq_true, beq_iff_eq] at parts
  obtain ⟨⟨records, start⟩, counted⟩ := parts
  have given : config.recordCount ≠ 0 := by
    rw [records]
    decide
  have limit : config.loadLimit = some 2 := loadLimit_eq_some_iff.mpr ⟨given, by rw [records]; rfl⟩
  have file : ((Dataset.load ⟨some 2, true⟩ (SourceLine.ofBytes threeRecords)).toOption.any
      fun dataset => dataset.size == 2) = true := by
    decide +kernel
  obtain ⟨dataset, loaded, size⟩ := (Option.any_eq_true _ _).mp file
  replace loaded := Workload.eq_ok_of_toOption loaded
  rw [← limit] at loaded
  have countable : dataset.size < UInt64.size := by
    rw [beq_iff_eq.mp size]
    decide
  obtain ⟨-, -, -, resolves⟩ :=
    insert_range_resolves lastOfTwo config accepted true threeRecords dataset loaded countable
  obtain ⟨count, isCount, -, resolved, held⟩ := resolves given
  cases Option.some.inj (counted.symm.trans isCount)
  have texts : (Dataset.recordTexts (SourceLine.ofBytes threeRecords)).length = 3 := by
    decide +kernel
  have enough : config.insertStart.toNat + (1 : UInt64).toNat ≤
      (Dataset.recordTexts (SourceLine.ofBytes threeRecords)).length := by
    rw [start, texts]
    decide
  have range := resolved.mpr ⟨by decide, enough⟩
  rw [start] at range
  exact ⟨config, dataset, accepted, loaded, countable, given, range,
    held enough 1 (by rw [start]; decide)⟩

end Config

end SpatialWorkload

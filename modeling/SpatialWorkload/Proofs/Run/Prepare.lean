import SpatialWorkload.Proofs.Draw.Key
import SpatialWorkload.Proofs.Run.Cursor
import SpatialWorkload.Run.Workload

/-!
# Prepared workloads

What holds of every workload that was made ready for a dataset: its insert range is not
empty and lies within the dataset and below the last word, and its keys are drawn by the
law of the configuration over this range.
-/

namespace SpatialWorkload

namespace Workload

def insertFinish (workload : Workload) : Nat :=
  workload.insertStart.toNat + workload.insertCount.toNat

structure IsPrepared (workload : Workload) : Prop where
  nonempty : workload.insertCount ≠ 0
  fits : workload.insertFinish < UInt64.size
  within : workload.insertFinish ≤ workload.dataset.size
  law : KeyChooser.ofLaw workload.config.keyLaw workload.insertStart workload.insertCount =
    .ok workload.keys

/-- The cursor ends where the range does. -/
theorem IsPrepared.finish_initial {workload : Workload} (prepared : workload.IsPrepared) :
    workload.initialShared.cursor.finish.toNat = workload.insertFinish :=
  Cursor.toNat_finish_of_fits prepared.fits

theorem IsPrepared.get?_ne_none {workload : Workload} (prepared : workload.IsPrepared)
    {index : UInt64} (below : index.toNat < workload.insertFinish) :
    workload.dataset.get? index ≠ none := by
  unfold Dataset.get?
  rw [Ne, Array.getElem?_eq_none_iff, Nat.not_le]
  exact Nat.lt_of_lt_of_le below prepared.within

theorem resolveInsertRange_spec {config : Config} {length : Nat} {start count : UInt64}
    (resolved : config.resolveInsertRange length = .ok (start, count)) :
    count ≠ 0 ∧ start.toNat + count.toNat < UInt64.size ∧
      start.toNat + count.toNat ≤ length := by
  have ⟨wanted, chosen⟩ : ∃ wanted : UInt64,
      (if wanted = 0 then .error .emptyInsertRange
      else if UInt64.size ≤ config.insertStart.toNat + wanted.toNat then
        .error .insertEndOverflows
      else if length < config.insertStart.toNat + wanted.toNat then
        .error (.datasetTooShort length (config.insertStart.toNat + wanted.toNat))
      else .ok (config.insertStart, wanted) : Except ConfigError (UInt64 × UInt64)) =
        .ok (start, count) :=
    ⟨_, resolved⟩
  split at chosen
  · cases chosen
  · rename_i nonempty
    split at chosen
    · cases chosen
    · rename_i fits
      split at chosen
      · cases chosen
      · rename_i within
        cases chosen
        exact ⟨nonempty, Nat.lt_of_not_le fits, Nat.le_of_not_lt within⟩

theorem orStop_eq_ok {ε β : Type} {result : Except ε β} {value : β}
    (came : orStop result = .ok value) : result = .ok value := by
  cases result with
  | error cause => cases came
  | ok other =>
      cases came
      rfl

theorem eq_ok_of_toOption {ε β : Type} {result : Except ε β} {value : β}
    (found : result.toOption = some value) : result = .ok value := by
  cases result with
  | error cause => cases found
  | ok other =>
      cases found
      rfl

/-- A chain of steps that ends well passes each of them. -/
theorem ok_of_bind {ε β γ : Type} {first : Except ε β} {rest : β → Except ε γ} {value : γ}
    (came : first >>= rest = .ok value) :
    ∃ middle, first = .ok middle ∧ rest middle = .ok value := by
  cases first with
  | error cause => cases came
  | ok middle => exact ⟨middle, rfl, came⟩

/-- Every part of a workload that was made ready comes from its configuration. -/
theorem prepare_parts {config : Config} {dataset : Dataset} {workload : Workload}
    (made : prepare config dataset = .ok workload) :
    (workload.config = config ∧ workload.dataset = dataset ∧
      config.resolveInsertRange dataset.size = .ok (workload.insertStart, workload.insertCount) ∧
      ScanChooser.ofMix? config.mix = some workload.chooser ∧
      KeyChooser.ofLaw config.keyLaw workload.insertStart workload.insertCount =
        .ok workload.keys) ∧
    UniformRange.ofRange? config.neighbours = some workload.neighbours ∧
      UniformRange.ofRange? config.distanceKm = some workload.distanceKm ∧
      UniformRange.ofRange? config.polygonKm = some workload.polygonKm := by
  unfold prepare at made
  obtain ⟨⟨start, count⟩, resolved, made⟩ := ok_of_bind made
  dsimp only at made
  split at made
  · rename_i chosen
    obtain ⟨keys, law, made⟩ := ok_of_bind made
    split at made
    · rename_i neighbours
      split at made
      · rename_i distanceKm
        split at made
        · rename_i polygonKm
          cases made
          exact ⟨⟨rfl, rfl, orStop_eq_ok resolved, chosen, orStop_eq_ok law⟩, neighbours,
            distanceKm, polygonKm⟩
        · cases made
      · cases made
    · cases made
  · cases made

theorem prepare_of_parts {config : Config} {dataset : Dataset} {start count : UInt64}
    {chooser : ScanChooser} {keys : KeyChooser} {neighbours distanceKm polygonKm : UniformRange}
    (resolved : config.resolveInsertRange dataset.size = .ok (start, count))
    (chosen : ScanChooser.ofMix? config.mix = some chooser)
    (law : KeyChooser.ofLaw config.keyLaw start count = .ok keys)
    (near : UniformRange.ofRange? config.neighbours = some neighbours)
    (distant : UniformRange.ofRange? config.distanceKm = some distanceKm)
    (inside : UniformRange.ofRange? config.polygonKm = some polygonKm) :
    prepare config dataset = .ok ⟨config, dataset, start, count, chooser, keys, neighbours,
      distanceKm, polygonKm⟩ := by
  simp only [prepare, resolved, orStop, bind, Except.bind, chosen, law, near, distant, inside]
  rfl

/-- What a workload that was made ready is made of. -/
theorem prepare_spec {config : Config} {dataset : Dataset} {workload : Workload}
    (made : prepare config dataset = .ok workload) :
    workload.config = config ∧ workload.dataset = dataset ∧
      config.resolveInsertRange dataset.size = .ok (workload.insertStart, workload.insertCount) ∧
      ScanChooser.ofMix? config.mix = some workload.chooser ∧
      KeyChooser.ofLaw config.keyLaw workload.insertStart workload.insertCount =
        .ok workload.keys :=
  (prepare_parts made).1

theorem range_of_ofRange? {range : Range} {uniform : UniformRange}
    (made : UniformRange.ofRange? range = some uniform) : uniform.range = range := by
  unfold UniformRange.ofRange? at made
  split at made
  · cases made
    rfl
  · cases made

/-- Its parameters are drawn from the ranges of the configuration. -/
theorem prepare_ranges {config : Config} {dataset : Dataset} {workload : Workload}
    (made : prepare config dataset = .ok workload) :
    workload.neighbours.range = config.neighbours ∧
      workload.distanceKm.range = config.distanceKm ∧
      workload.polygonKm.range = config.polygonKm := by
  obtain ⟨-, neighbours, distanceKm, polygonKm⟩ := prepare_parts made
  exact ⟨range_of_ofRange? neighbours, range_of_ofRange? distanceKm, range_of_ofRange? polygonKm⟩

theorem isPrepared_of_prepare {config : Config} {dataset : Dataset} {workload : Workload}
    (made : prepare config dataset = .ok workload) :
    workload.IsPrepared ∧ workload.config = config ∧ workload.dataset = dataset := by
  obtain ⟨rfl, rfl, resolved, -, law⟩ := prepare_spec made
  obtain ⟨nonempty, fits, within⟩ := resolveInsertRange_spec resolved
  exact ⟨⟨nonempty, fits, within, law⟩, rfl, rfl⟩

end Workload

namespace Floor

/-! ## Small workloads -/

def oneRecordConfig : Config where
  table := "positions"
  recordCount := 0
  insertStart := 0
  insertCount := none
  mix := ⟨1, 0, 0⟩
  neighbours := ⟨1, 1⟩
  distanceKm := ⟨1, 1⟩
  polygonKm := ⟨1, 1⟩
  retryLimit := 0
  retryInterval := ⟨0⟩
  keyLaw := .uniform
  preloaded := false
  datasetPath := none
  skipMalformed := false
  backend := "memory"
  threadCount := 1
  operationCount := 1

def onePosition : Position Float := ⟨"first", 0, 0, Timestamp.epoch⟩

def oneRecord : Dataset := ⟨#[onePosition]⟩

def oneRecordWorkload : Workload where
  config := oneRecordConfig
  dataset := oneRecord
  insertStart := 0
  insertCount := 1
  chooser := ⟨[.knn], [], 1⟩
  keys := .uniform 0 0
  neighbours := ⟨⟨1, 1⟩, by decide⟩
  distanceKm := ⟨⟨1, 1⟩, by decide⟩
  polygonKm := ⟨⟨1, 1⟩, by decide⟩

theorem prepare_oneRecord :
    Workload.prepare oneRecordConfig oneRecord = .ok oneRecordWorkload :=
  rfl

def twoRecords : Dataset :=
  ⟨#[onePosition, { onePosition with id := "second" }]⟩

def twoRecordsWorkload : Workload :=
  { oneRecordWorkload with dataset := twoRecords, insertCount := 2, keys := .uniform 0 1 }

theorem prepare_twoRecords :
    Workload.prepare oneRecordConfig twoRecords = .ok twoRecordsWorkload :=
  rfl

end Floor

/-- Refuses an insert for every `false` of its state, and keeps nothing. -/
def Backend.hesitant : Backend (List Bool) where
  name := "hesitant"
  openSession verdicts := (.ok (), verdicts)
  reset _ verdicts := (.ok (), verdicts)
  insert _ _ _ verdicts :=
    match verdicts with
    | false :: rest => (.error (.refused (.backend "busy")), rest)
    | _ => (.ok (), verdicts.tail)
  scan _ _ verdicts := (.ok [], verdicts)

end SpatialWorkload

import SpatialWorkload.Draw.Choice

/-!
# A choice among the enabled scans

There is a chooser exactly where the weights have a finite sum, and a chooser of some scans
always picks one of them: the bounds that a point can pass are one fewer than the scans.
-/

namespace SpatialWorkload

def ScanMix.weight (mix : ScanMix) : ScanKind → Float
  | .knn => mix.knn
  | .distance => mix.distance
  | .polygon => mix.polygon

namespace ScanChooser

def total (mix : ScanMix) : Float :=
  ((enabled mix).map Prod.snd).foldl (· + ·) 0

theorem ofMix?_eq_none_iff (mix : ScanMix) :
    ofMix? mix = none ↔ (total mix).isFinite = false := by
  unfold ofMix? total
  dsimp only
  split
  · rename_i finite
    simp [finite]
  · rename_i infinite
    simp [infinite]

theorem length_cumulative (sum : Float) (weights : List Float) :
    (cumulative sum weights).length = weights.length - 1 := by
  induction weights generalizing sum with
  | nil => rfl
  | cons weight rest ih =>
      cases rest with
      | nil => rfl
      | cons next others =>
          have step : cumulative sum (weight :: next :: others) =
              (sum + weight) :: cumulative (sum + weight) (next :: others) :=
            rfl
          rw [step, List.length_cons, ih]
          rfl

/-- A chooser that was set up has the enabled scans, and one bound between every two. -/
theorem ofMix?_spec {mix : ScanMix} {chooser : ScanChooser} (made : ofMix? mix = some chooser) :
    chooser.kinds = (enabled mix).map Prod.fst ∧
      chooser.bounds.length = chooser.kinds.length - 1 := by
  unfold ofMix? at made
  dsimp only at made
  split at made
  · cases made
    refine ⟨rfl, ?_⟩
    rw [length_cumulative, List.length_map, List.length_map]
  · cases made

/-- Where some scan is enabled one of them is picked, whatever the words. -/
theorem choose_mem {mix : ScanMix} {chooser : ScanChooser} (made : ofMix? mix = some chooser)
    (some : chooser.isEmpty = false) (words : Words) :
    ∃ kind ∈ chooser.kinds, (chooser.choose words).1 = Option.some kind := by
  obtain ⟨-, bounds⟩ := ofMix?_spec made
  have nonempty : 0 < chooser.kinds.length := by
    exact List.length_pos_iff.mpr (List.isEmpty_eq_false_iff.mp some)
  unfold choose
  rw [some]
  dsimp only
  generalize passed : (chooser.bounds.filter fun bound =>
    decide (bound ≤ words.coarseFraction.1 * chooser.scale)).length = index
  have within : index < chooser.kinds.length := by
    have atMost := List.length_filter_le
      (fun bound => decide (bound ≤ words.coarseFraction.1 * chooser.scale)) chooser.bounds
    omega
  exact ⟨chooser.kinds[index], List.getElem_mem within, List.getElem?_eq_getElem within⟩

/-- A chooser has scans exactly where some weight is positive. -/
theorem isEmpty_eq_false_iff {mix : ScanMix} {chooser : ScanChooser}
    (made : ofMix? mix = some chooser) :
    chooser.isEmpty = false ↔ 0 < mix.knn ∨ 0 < mix.distance ∨ 0 < mix.polygon := by
  obtain ⟨kinds, -⟩ := ofMix?_spec made
  rw [isEmpty, kinds, List.isEmpty_eq_false_iff, Ne, List.map_eq_nil_iff, enabled,
    List.filter_eq_nil_iff]
  simp only [List.forall_mem_cons, decide_eq_true_eq, List.not_mem_nil, false_imp_iff, implies_true,
    and_true, Classical.not_and_iff_not_or_not, Classical.not_not]

/-- The scans of a chooser are those of positive weight. -/
theorem mem_kinds_iff {mix : ScanMix} {chooser : ScanChooser} (made : ofMix? mix = some chooser)
    {kind : ScanKind} : kind ∈ chooser.kinds ↔ 0 < mix.weight kind := by
  obtain ⟨kinds, -⟩ := ofMix?_spec made
  rw [kinds]
  cases kind <;> simp [enabled, ScanMix.weight]

/-- Without scans no word is read. -/
theorem choose_of_isEmpty {chooser : ScanChooser} (empty : chooser.isEmpty = true)
    (words : Words) : chooser.choose words = (none, words) :=
  if_pos empty

end ScanChooser

end SpatialWorkload

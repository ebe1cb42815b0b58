import Mathlib.MeasureTheory.Constructions.Pi
import Mathlib.Probability.ConditionalProbability
import Mathlib.Probability.Distributions.Exponential
import SpatialWorkload.Proofs.Draw.Key
import SpatialWorkload.Proofs.Draw.Truncated

/-!
# The law of the way back

A key lies as far back from the newest record as the first of some exponential numbers whose
whole part stays within the span, or as far as the cut-off law says where none does.  In exact
arithmetic both have one law, the whole part of an exponential number given that it stays within
the span, and so has the way back, however many numbers are tried before the cut-off law is used.
-/

namespace SpatialWorkload.KeyChooser

open MeasureTheory ProbabilityTheory

/-- The way back that numbers give; `reach` is the span as a number to compare them with. -/
def wayBack {α : Type} [Scalar α] (rate reach : α) (span : Nat) (draw : α) : List α → Nat
  | [] => truncatedExponential rate span draw
  | number :: rest =>
      if Scalar.le (Scalar.floor number) reach then Scalar.truncate (Scalar.floor number)
      else wayBack rate reach span draw rest

def exponentials (rate : Float) : Nat → Words → List Float × Words
  | 0, words => ([], words)
  | wanted + 1, words =>
      let (number, rest) := words.exponential
      let (numbers, rest) := exponentials rate wanted rest
      (number * (1 / rate) :: numbers, rest)

/-- The loop over words is the way back of the numbers that the words give. -/
theorem backFrom_eq_wayBack (rate : Float) (limit span : UInt64) (draws : Nat) (words : Words) :
    (backFrom rate limit span draws words).1 =
      limit - UInt64.ofNat (wayBack rate span.toFloat span.toNat
        (exponentials rate draws words).2.coarseFraction.1 (exponentials rate draws words).1) := by
  induction draws generalizing words with
  | zero => rfl
  | succ draws ih =>
      rw [backFrom]
      dsimp only [exponentials, wayBack]
      by_cases within : Elementary.floor (words.exponential.1 * (1 / rate)) ≤ span.toFloat
      · have accepted : Scalar.le (Scalar.floor (words.exponential.1 * (1 / rate)))
            span.toFloat = true := decide_eq_true within
        rw [if_pos within, if_pos accepted]
        exact congrArg (limit - ·) (UInt64.ofNat_toNat).symm
      · have refused : ¬Scalar.le (Scalar.floor (words.exponential.1 * (1 / rate)))
            span.toFloat = true := fun accepted => within (of_decide_eq_true accepted)
        rw [if_neg within, if_neg refused]
        exact ih words.exponential.2

noncomputable def unitLaw : Measure ℝ :=
  volume.restrict (Set.Ico 0 1)

instance : IsProbabilityMeasure unitLaw := by
  constructor
  rw [unitLaw, Measure.restrict_apply_univ, Real.volume_Ico, sub_zero, ENNReal.ofReal_one]

/-- The law of the whole part of an exponential number, given that it stays within the span. -/
noncomputable def acceptedLaw (rate : ℝ) (span : UInt64) : Measure ℕ :=
  ((expMeasure rate).map fun number => ⌊number⌋₊)[|Set.Iic span.toNat]

theorem measurable_truncatedExponential (rate : ℝ) (greatest : ℕ) :
    Measurable (truncatedExponential rate greatest) := by
  have cut (draw : ℝ) : truncatedExponential rate greatest draw =
      min (min ⌊-(Real.log (1 - draw * truncatedMass rate greatest)) / rate⌋₊
        (UInt64.size - 1)) greatest := by
    rw [← truncate_floor, ← Scalar.one_real]
    rfl
  rw [funext cut]
  fun_prop

section

variable {Ω : Type}

/-- A draw that is kept if it is accepted, and put aside for another if it is not. -/
def retried (first : ℝ → ℕ) (other : Ω → ℕ) (accepted : Set ℕ)
    [DecidablePred (· ∈ accepted)] (draws : ℝ × Ω) : ℕ :=
  if first draws.1 ∈ accepted then first draws.1 else other draws.2

variable {first : ℝ → ℕ} {other : Ω → ℕ} (accepted : Set ℕ) [DecidablePred (· ∈ accepted)]

theorem preimage_retried (answers : Set ℕ) :
    Set.preimage (retried first other accepted) answers =
      Set.preimage first (accepted ∩ answers) ×ˢ Set.univ ∪
        Set.preimage first acceptedᶜ ×ˢ Set.preimage other answers := by
  ext ⟨number, rest⟩
  by_cases within : first number ∈ accepted <;> simp [retried, within]

variable [MeasurableSpace Ω] (firstMeasurable : Measurable first)
  (otherMeasurable : Measurable other)

include firstMeasurable otherMeasurable

theorem measurable_retried : Measurable (retried first other accepted) :=
  Measurable.ite (firstMeasurable.comp measurable_fst .of_discrete)
    (firstMeasurable.comp measurable_fst) (otherMeasurable.comp measurable_snd)

/-- To try once more before a draw of the accepted law leaves the law as it is. -/
theorem map_retried {law : Measure ℝ} [IsProbabilityMeasure law] {others : Measure Ω}
    [IsProbabilityMeasure others] (same : others.map other = (law.map first)[|accepted]) :
    (law.prod others).map (retried first other accepted) = (law.map first)[|accepted] := by
  have : IsProbabilityMeasure (law.map first) :=
    Measure.isProbabilityMeasure_map firstMeasurable.aemeasurable
  have measurable := measurable_retried accepted firstMeasurable otherMeasurable
  ext answers -
  have apart : Disjoint (Set.preimage first (accepted ∩ answers) ×ˢ (Set.univ : Set Ω))
      (Set.preimage first acceptedᶜ ×ˢ Set.preimage other answers) := by
    refine Set.disjoint_left.mpr ?_
    rintro ⟨number, rest⟩ ⟨inside, -⟩ ⟨outside, -⟩
    exact outside inside.1
  calc (law.prod others).map (retried first other accepted) answers
      = law (Set.preimage first (accepted ∩ answers)) * others Set.univ +
          law (Set.preimage first acceptedᶜ) * others (Set.preimage other answers) := by
        rw [Measure.map_apply measurable .of_discrete, preimage_retried,
          measure_union apart ((firstMeasurable .of_discrete).prod (otherMeasurable .of_discrete)),
          Measure.prod_prod, Measure.prod_prod]
    _ = law.map first (accepted ∩ answers) +
          law.map first acceptedᶜ * others.map other answers := by
        rw [measure_univ, mul_one, Measure.map_apply firstMeasurable .of_discrete,
          Measure.map_apply firstMeasurable .of_discrete,
          Measure.map_apply otherMeasurable .of_discrete]
    _ = (law.map first accepted + law.map first acceptedᶜ) *
          (law.map first)[|accepted] answers := by
        rw [same, ← cond_mul_eq_inter .of_discrete, mul_comm, ← add_mul]
    _ = (law.map first)[|accepted] answers := by
        rw [prob_add_prob_compl .of_discrete, one_mul]

end

section

variable {rate : ℝ} (positive : 0 < rate)

include positive

/-- Whole parts of exponential numbers are at most so large as often as the numbers are below. -/
theorem map_floor_Iic (count : ℕ) :
    (expMeasure rate).map (fun number => ⌊number⌋₊) (Set.Iic count) =
      ENNReal.ofReal (shareBelow rate (count + 1)) := by
  have := isProbabilityMeasure_expMeasure positive
  have below : Set.preimage (fun number : ℝ => ⌊number⌋₊) (Set.Iic count) =
      Set.Iio ((count + 1 : ℕ) : ℝ) := by
    ext number
    rw [Set.mem_preimage, Set.mem_Iic, Set.mem_Iio, ← Nat.lt_succ_iff,
      Nat.floor_lt' (Nat.succ_ne_zero count)]
  have closed : expMeasure rate (Set.Iio ((count + 1 : ℕ) : ℝ)) =
      expMeasure rate (Set.Iic ((count + 1 : ℕ) : ℝ)) :=
    measure_congr ((withDensity_absolutelyContinuous _ _).ae_le Iio_ae_eq_Iic)
  rw [Measure.map_apply Nat.measurable_floor measurableSet_Iic, below, closed, ← ofReal_cdf,
    cdf_expMeasure_eq positive, if_pos (Nat.cast_nonneg _), shareBelow, neg_mul]

theorem acceptedLaw_Iic (span : UInt64) (count : ℕ) :
    acceptedLaw rate span (Set.Iic count) =
      ENNReal.ofReal (shareBelow rate (min span.toNat count + 1) /
        truncatedMass rate span.toNat) := by
  rw [acceptedLaw, cond_apply measurableSet_Iic, Set.Iic_inter_Iic, map_floor_Iic positive,
    map_floor_Iic positive, truncatedMass_real,
    ENNReal.ofReal_div_of_pos (shareBelow_succ_pos positive _), mul_comm, div_eq_mul_inv]

/-- The direct draw is at most so large on the numbers below the share of what is as large. -/
theorem unitLaw_truncatedExponential_Iic (span : UInt64) (count : ℕ) :
    unitLaw.map (truncatedExponential rate span.toNat) (Set.Iic count) =
      ENNReal.ofReal (shareBelow rate (min span.toNat count + 1) /
        truncatedMass rate span.toNat) := by
  have mass := shareBelow_succ_pos positive span.toNat
  have drawn : Set.preimage (truncatedExponential rate span.toNat) (Set.Iic count) ∩
      Set.Ico 0 1 =
      Set.Ico 0 (shareBelow rate (min span.toNat count + 1) / truncatedMass rate span.toNat) := by
    have below : shareBelow rate (min span.toNat count + 1) /
        truncatedMass rate span.toNat ≤ 1 := by
      rw [truncatedMass_real, div_le_one mass]
      exact (shareBelow_strictMono positive).monotone (Nat.succ_le_succ (Nat.min_le_left _ _))
    have cut (draw : ℝ) : truncatedExponential rate span.toNat draw ≤ count ↔
        truncatedExponential rate span.toNat draw ≤ min span.toNat count := by
      rw [le_min_iff, and_iff_right (truncatedExponential_le _ _ _)]
    ext draw
    simp only [Set.mem_inter_iff, Set.mem_preimage, Set.mem_Iic, Set.mem_Ico, cut]
    constructor
    · rintro ⟨small, low, high⟩
      exact ⟨low, (truncatedExponential_le_iff positive low high span _).mp small⟩
    · rintro ⟨low, less⟩
      have high := less.trans_le below
      exact ⟨(truncatedExponential_le_iff positive low high span _).mpr less, low, high⟩
  have measurable := measurable_truncatedExponential rate span.toNat
  rw [Measure.map_apply measurable measurableSet_Iic, unitLaw,
    Measure.restrict_apply (measurable measurableSet_Iic), drawn, Real.volume_Ico, sub_zero]

/-- The cut-off law is what the loop accepts. -/
theorem unitLaw_truncatedExponential (span : UInt64) :
    unitLaw.map (truncatedExponential rate span.toNat) = acceptedLaw rate span := by
  have : IsProbabilityMeasure (unitLaw.map (truncatedExponential rate span.toNat)) :=
    Measure.isProbabilityMeasure_map (measurable_truncatedExponential _ _).aemeasurable
  refine Measure.ext_of_Iic _ _ fun count => ?_
  rw [unitLaw_truncatedExponential_Iic positive, acceptedLaw_Iic positive]

end

theorem wayBack_cons (rate : ℝ) (span : UInt64) (draw number : ℝ) (rest : List ℝ) :
    wayBack rate span.toNat span.toNat draw (number :: rest) =
      if ⌊number⌋₊ ∈ Set.Iic span.toNat then ⌊number⌋₊
      else wayBack rate span.toNat span.toNat draw rest := by
  rw [wayBack, truncate_floor]
  by_cases within : ⌊number⌋₊ ∈ Set.Iic span.toNat
  · rw [if_pos ((floor_le_iff _ _).mpr within), if_pos within]
    exact min_eq_left (within.trans (Nat.le_pred_of_lt span.toNat_lt))
  · rw [if_neg fun accepted => within ((floor_le_iff _ _).mp accepted), if_neg within]

/-- So many exponential numbers and a number for the direct draw, all of them independent. -/
noncomputable def drawsLaw (rate : ℝ) (draws : ℕ) : Measure ((Fin draws → ℝ) × ℝ) :=
  (Measure.pi fun _ => expMeasure rate).prod unitLaw

noncomputable def drawnWayBack (rate : ℝ) (span : UInt64) (draws : ℕ)
    (drawn : (Fin draws → ℝ) × ℝ) : ℕ :=
  wayBack rate span.toNat span.toNat drawn.2 (List.ofFn drawn.1)

def firstAndRest (draws : ℕ) (drawn : (Fin (draws + 1) → ℝ) × ℝ) : ℝ × (Fin draws → ℝ) × ℝ :=
  (drawn.1 0, fun index => drawn.1 index.succ, drawn.2)

theorem drawnWayBack_succ (rate : ℝ) (span : UInt64) (draws : ℕ) :
    drawnWayBack rate span (draws + 1) =
      retried (⌊·⌋₊) (drawnWayBack rate span draws) (Set.Iic span.toNat) ∘
        firstAndRest draws := by
  funext drawn
  rw [drawnWayBack, List.ofFn_succ, wayBack_cons]
  rfl

theorem measurePreserving_firstAndRest {rate : ℝ} (positive : 0 < rate) (draws : ℕ) :
    MeasurePreserving (firstAndRest draws) (drawsLaw rate (draws + 1))
      ((expMeasure rate).prod (drawsLaw rate draws)) := by
  have := isProbabilityMeasure_expMeasure positive
  exact (measurePreserving_prodAssoc _ _ _).comp
    ((measurePreserving_piFinSuccAbove (fun _ => expMeasure rate) 0).prod
      (MeasurePreserving.id unitLaw))

theorem measurable_drawnWayBack (rate : ℝ) (span : UInt64) (draws : ℕ) :
    Measurable (drawnWayBack rate span draws) := by
  induction draws with
  | zero => exact (measurable_truncatedExponential rate span.toNat).comp measurable_snd
  | succ draws ih =>
      have split : Measurable (firstAndRest draws) := by
        unfold firstAndRest
        fun_prop
      rw [drawnWayBack_succ]
      exact (measurable_retried _ Nat.measurable_floor ih).comp split

/-- However many numbers are tried, the way back has the law of an accepted one. -/
theorem drawsLaw_drawnWayBack {rate : ℝ} (positive : 0 < rate) (span : UInt64) (draws : ℕ) :
    (drawsLaw rate draws).map (drawnWayBack rate span draws) = acceptedLaw rate span := by
  have := isProbabilityMeasure_expMeasure positive
  induction draws with
  | zero =>
      have direct : drawnWayBack rate span 0 =
          truncatedExponential rate span.toNat ∘ Prod.snd := rfl
      rw [direct, ← Measure.map_map (measurable_truncatedExponential _ _) measurable_snd, drawsLaw,
        Measure.map_snd_prod, measure_univ, one_smul, unitLaw_truncatedExponential positive]
  | succ draws ih =>
      have split := measurePreserving_firstAndRest positive draws
      have : IsProbabilityMeasure (drawsLaw rate draws) := by
        unfold drawsLaw
        infer_instance
      have measurable := measurable_drawnWayBack rate span draws
      rw [drawnWayBack_succ,
        ← Measure.map_map (measurable_retried _ Nat.measurable_floor measurable) split.measurable,
        split.map_eq]
      exact map_retried _ Nat.measurable_floor measurable ih

/--
The direct draw answers each whole number up to the span exactly on the share that begins with
it, and its bound takes nothing away.  So it has the law of what the loop accepts, and the way
back has this law however many numbers the loop tries before.  The loop over words is that way
back, at the numbers that the words give.
-/
theorem switching_keeps_law {rate : ℝ} (positive : 0 < rate) (span : UInt64) :
    truncatedMass rate span.toNat = 1 - Real.exp (-rate * (span.toNat + 1)) ∧
    (∀ draw : ℝ, 0 ≤ draw → draw < 1 →
      (∀ count : ℕ, truncatedExponential rate span.toNat draw = count ↔
        count ≤ span.toNat ∧
          (1 - Real.exp (-rate * count)) / truncatedMass rate span.toNat ≤ draw ∧
          draw < (1 - Real.exp (-rate * (count + 1))) / truncatedMass rate span.toNat) ∧
      Scalar.truncate (Scalar.floor
          (-(Scalar.ln (Scalar.one - draw * truncatedMass rate span.toNat)) / rate)) =
        truncatedExponential rate span.toNat draw) ∧
    (∀ count : ℕ, count ≤ span.toNat →
      0 ≤ (1 - Real.exp (-rate * count)) / truncatedMass rate span.toNat ∧
      (1 - Real.exp (-rate * count)) / truncatedMass rate span.toNat <
        (1 - Real.exp (-rate * (count + 1))) / truncatedMass rate span.toNat ∧
      (1 - Real.exp (-rate * (count + 1))) / truncatedMass rate span.toNat ≤ 1) ∧
    unitLaw.map (truncatedExponential rate span.toNat) =
      ((expMeasure rate).map fun number => ⌊number⌋₊)[|Set.Iic span.toNat] ∧
    (∀ draws : ℕ, (drawsLaw rate draws).map (drawnWayBack rate span draws) =
      ((expMeasure rate).map fun number => ⌊number⌋₊)[|Set.Iic span.toNat]) ∧
    ∀ (double : Float) (limit : UInt64) (draws : ℕ) (words : Words),
      (backFrom double limit span draws words).1 =
        limit - UInt64.ofNat (wayBack double span.toFloat span.toNat
          (exponentials double draws words).2.coarseFraction.1
          (exponentials double draws words).1) := by
  have mass := shareBelow_succ_pos positive span.toNat
  have next (count : ℕ) : 1 - Real.exp (-rate * (count + 1)) = shareBelow rate (count + 1) := by
    rw [shareBelow, Nat.cast_succ]
  refine ⟨(truncatedMass_real rate _).trans (next _).symm, fun draw low high => ⟨?_, ?_⟩, ?_,
    unitLaw_truncatedExponential positive span, drawsLaw_drawnWayBack positive span, fun _ _ => ?_⟩
  · intro count
    rw [next]
    exact truncatedExponential_eq_iff positive low high span count
  · exact (truncatedExponential_eq_floor positive low high span).2.symm
  · intro count within
    rw [next, truncatedMass_real]
    refine ⟨div_nonneg (shareBelow_nonneg positive count) mass.le, ?_, ?_⟩
    · exact div_lt_div_of_pos_right (shareBelow_strictMono positive count.lt_succ_self) mass
    · exact (div_le_one mass).mpr
        ((shareBelow_strictMono positive).monotone (Nat.succ_le_succ within))
  · exact backFrom_eq_wayBack _ _ span

/-- A span of three at rate one: half of the interval still leads to the newest record. -/
theorem switching_keeps_law_half :
    (0 : ℝ) < 1 ∧ (0 : ℝ) ≤ 1 / 2 ∧ (1 : ℝ) / 2 < 1 ∧ 0 ≤ (3 : UInt64).toNat ∧
    truncatedExponential (1 : ℝ) (3 : UInt64).toNat (1 / 2) = 0 ∧
    (1 - Real.exp (-1 * (0 + 1))) / truncatedMass (1 : ℝ) (3 : UInt64).toNat ≤ 1 ∧
    (drawsLaw 1 rejectionDraws).map (drawnWayBack 1 3 rejectionDraws) =
      ((expMeasure 1).map fun number => ⌊number⌋₊)[|Set.Iic (3 : UInt64).toNat] := by
  obtain ⟨total, drawn, shares, -, law, -⟩ := switching_keeps_law one_pos 3
  obtain ⟨-, -, high⟩ := shares 0 (Nat.zero_le _)
  obtain ⟨answers, -⟩ := drawn (1 / 2) (by norm_num) (by norm_num)
  rw [Nat.cast_zero] at high
  have begins : (1 : ℝ) / 2 < 1 - Real.exp (-1 * (0 + 1)) := by
    have two : 1 + 1 < Real.exp 1 := Real.add_one_lt_exp one_ne_zero
    have inverse : (Real.exp 1)⁻¹ < (1 + 1)⁻¹ := inv_strictAnti₀ (by norm_num) two
    rw [zero_add, mul_one, Real.exp_neg]
    norm_num at inverse
    linarith
  have mass : truncatedMass (1 : ℝ) (3 : UInt64).toNat ≤ 1 := by
    rw [total]
    exact sub_le_self _ (Real.exp_pos _).le
  have positive : 0 < truncatedMass (1 : ℝ) (3 : UInt64).toNat := by
    rw [truncatedMass_real]
    exact shareBelow_succ_pos one_pos _
  have ends : (1 : ℝ) / 2 <
      (1 - Real.exp (-1 * (0 + 1))) / truncatedMass (1 : ℝ) (3 : UInt64).toNat :=
    begins.trans_le (le_div_self (one_half_pos.trans begins).le positive mass)
  refine ⟨one_pos, by norm_num, by norm_num, Nat.zero_le _, (answers 0).mpr ?_, high, law _⟩
  rw [Nat.cast_zero, mul_zero, Real.exp_zero, sub_self, zero_div]
  exact ⟨Nat.zero_le _, by norm_num, ends⟩

end SpatialWorkload.KeyChooser

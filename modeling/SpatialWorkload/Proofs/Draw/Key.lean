import SpatialWorkload.Draw.Key
import SpatialWorkload.Proofs.Scalar.Conversion

/-!
# Keys within their range

A number drawn from a range lies in the range, and a key lies between the first record and
the newest acknowledged one, whatever the words.  The exponential law measures the way back
in doubles: where the number of records on that way is rounded up to a double, a draw of that
double leads to before the first record.  Ways that can be counted in 53 bits are not rounded.
-/

namespace SpatialWorkload

namespace Words

theorem offsetBelow_lt {size : Nat} (positive : 0 < size) (zone patience : Nat) (words : Words) :
    (offsetBelow size zone patience words).1 < size := by
  induction patience generalizing words with
  | zero => exact positive
  | succ patience ih =>
      simp only [offsetBelow]
      split
      · refine Nat.div_lt_of_lt_mul ?_
        exact Nat.mul_lt_mul_of_pos_right (words.next.1.toNat_lt) positive
      · exact ih words.next.2

theorem inRange_mem {range : Range} (ordered : range.min ≤ range.max) (zone : Nat → Nat)
    (words : Words) :
    range.min ≤ (words.inRange zone range).1 ∧ (words.inRange zone range).1 ≤ range.max := by
  obtain ⟨low, high⟩ := range
  change low ≤ high at ordered
  unfold inRange
  dsimp only
  split
  · rename_i whole
    -- A range of no size by its words is the range of all words.
    have size : (high - low + 1).toNat = 0 := whole
    have wraps : high - low + 1 = 0 := UInt64.toNat_inj.mp size
    constructor <;> grind
  · rename_i nonempty
    have size : sizeOfRange ⟨low, high⟩ = (high - low + 1).toNat := rfl
    have below := offsetBelow_lt (Nat.pos_of_ne_zero nonempty) (zone (sizeOfRange ⟨low, high⟩))
      patience words
    generalize (offsetBelow (sizeOfRange ⟨low, high⟩) (zone (sizeOfRange ⟨low, high⟩)) patience
      words).1 = offset at below ⊢
    rw [size] at below
    have lows := UInt64.le_iff_toNat_le.mp ordered
    have difference : (high - low).toNat = high.toNat - low.toNat :=
      UInt64.toNat_sub_of_le _ _ ordered
    have highBound := high.toNat_lt
    have upper : offset ≤ high.toNat - low.toNat := by
      rw [UInt64.toNat_add, difference] at below
      have wrapped := Nat.mod_le (high.toNat - low.toNat + (1 : UInt64).toNat) (2 ^ 64)
      change _ ≤ high.toNat - low.toNat + 1 at wrapped
      omega
    have sum : (low + UInt64.ofNat offset).toNat = low.toNat + offset :=
      Word.toNat_add_ofNat (by change _ < 18446744073709551616; omega)
    rw [UInt64.le_iff_toNat_le, UInt64.le_iff_toNat_le, sum]
    omega

end Words

theorem UniformRange.sample_mem (uniform : UniformRange) (words : Words) :
    uniform.range.min ≤ (uniform.sample words).1 ∧
      (uniform.sample words).1 ≤ uniform.range.max :=
  Words.inRange_mem uniform.ordered Words.exactZone words

theorem truncatedExponential_le {α : Type} [Scalar α] (rate : α) (greatest : Nat) (draw : α) :
    truncatedExponential rate greatest draw ≤ greatest :=
  Nat.min_le_right _ _

namespace KeyChooser

/-- The first way back among the draws that is accepted, if one is. -/
def acceptedOffset (rate : Float) (span : UInt64) : Nat → Words → Option Float
  | 0, _ => none
  | draws + 1, words =>
      let (number, rest) := words.exponential
      let offset := Elementary.floor (number * (1 / rate))
      if offset ≤ span.toFloat then some offset else acceptedOffset rate span draws rest

/-- The span is rounded up to a double, and the way back that is accepted is as long. -/
def Exceeds (rate : Float) (span : UInt64) (draws : Nat) (words : Words) : Prop :=
  Double.RoundsUp span ∧ ∃ offset, acceptedOffset rate span draws words = some offset ∧
    span.toFloat ≤ offset

theorem sub_mem_iff {start limit offset : UInt64} (begun : start ≤ limit) :
    start ≤ limit - offset ∧ limit - offset ≤ limit ↔ offset ≤ limit - start := by
  constructor
  · rintro ⟨low, high⟩
    grind
  · intro within
    constructor <;> grind

/-- Whatever the draws, the way back is as long as was accepted, or within the span. -/
theorem backFrom_cases (rate : Float) (limit span : UInt64) (draws : Nat) (words : Words) :
    ∃ offset, (backFrom rate limit span draws words).1 = limit - offset ∧
      ((acceptedOffset rate span draws words = none ∧ offset ≤ span) ∨
        ∃ number, acceptedOffset rate span draws words = some number ∧
          number ≤ span.toFloat ∧ offset = number.toUInt64) := by
  induction draws generalizing words with
  | zero =>
      refine ⟨_, rfl, Or.inl ⟨rfl, UInt64.le_iff_toNat_le.mpr ?_⟩⟩
      have fits (draw : Float) : truncatedExponential rate span.toNat draw < UInt64.size :=
        Nat.lt_of_le_of_lt (truncatedExponential_le _ _ _) span.toNat_lt
      rw [UInt64.toNat_ofNat_of_lt' (fits _)]
      exact truncatedExponential_le _ _ _
  | succ draws ih =>
      simp only [backFrom, acceptedOffset]
      split
      · rename_i within
        exact ⟨_, rfl, Or.inr ⟨_, rfl, within, rfl⟩⟩
      · exact ih words.exponential.2

/-- The key lies where it should unless the draws exceed the span. -/
theorem backFrom_mem_iff {start limit : UInt64} (begun : start ≤ limit) (rate : Float)
    (draws : Nat) (words : Words) :
    (start ≤ (backFrom rate limit (limit - start) draws words).1 ∧
      (backFrom rate limit (limit - start) draws words).1 ≤ limit) ↔
        ¬Exceeds rate (limit - start) draws words := by
  obtain ⟨offset, came, ⟨none, within⟩ | ⟨number, accepted, below, rfl⟩⟩ :=
    backFrom_cases rate limit (limit - start) draws words
  · rw [came, sub_mem_iff begun]
    refine ⟨fun _ => ?_, fun _ => within⟩
    rintro ⟨-, number, accepted, -⟩
    rw [none] at accepted
    cases accepted
  · rw [came, sub_mem_iff begun, ← UInt64.not_lt, Double.lt_toUInt64_iff below, Exceeds]
    refine not_congr (and_congr_right fun _ => ⟨fun equal => ⟨number, accepted, equal⟩, ?_⟩)
    rintro ⟨other, same, equal⟩
    rw [accepted] at same
    cases same
    exact equal

/-- Going back from the newest record stays within the way back to the first. -/
theorem backFrom_mem {start limit : UInt64} (begun : start ≤ limit)
    (short : (limit - start).toNat < 2 * Double.leastNormal) (rate : Float) (draws : Nat)
    (words : Words) :
    start ≤ (backFrom rate limit (limit - start) draws words).1 ∧
      (backFrom rate limit (limit - start) draws words).1 ≤ limit :=
  (backFrom_mem_iff begun rate draws words).mpr fun exceeds =>
    Double.not_roundsUp_of_lt short exceeds.1

/-- The range of a chooser is not empty, as far as the law knows its end. -/
def IsOrdered : KeyChooser → Prop
  | uniform start finish => start ≤ finish
  | exponential _ _ => True

/-- The law does not count in doubles, or no farther than doubles count. -/
def CountsTo (limit : UInt64) : KeyChooser → Prop
  | uniform _ _ => True
  | exponential start _ => (limit - start).toNat < 2 * Double.leastNormal

theorem next_uniform {start finish limit : UInt64} (ordered : start ≤ finish)
    (begun : start ≤ limit) (words : Words) :
    ∃ key, ((uniform start finish).next (some limit) words).1 = some key ∧
      start ≤ key ∧ key ≤ limit ∧ key ≤ finish := by
  have upTo : start ≤ min limit finish := by
    change start ≤ if limit ≤ finish then limit else finish
    split
    · exact begun
    · exact ordered
  obtain ⟨low, high⟩ := @Words.inRange_mem ⟨start, min limit finish⟩ upTo Words.shiftedZone words
  have below : min limit finish ≤ limit ∧ min limit finish ≤ finish := by
    change (if limit ≤ finish then limit else finish) ≤ limit ∧
      (if limit ≤ finish then limit else finish) ≤ finish
    split
    · rename_i within
      exact ⟨UInt64.le_refl limit, within⟩
    · rename_i beyond
      exact ⟨UInt64.le_of_lt (UInt64.not_le.mp beyond), UInt64.le_refl finish⟩
  have notBefore : ¬limit < (uniform start finish).start := UInt64.not_lt.mpr begun
  refine ⟨_, ?_, low, UInt64.le_trans high below.1, UInt64.le_trans high below.2⟩
  simp only [next, if_neg notBefore]

theorem next_exponential {start limit : UInt64} (begun : start ≤ limit) (rate : Float)
    (words : Words) :
    ((exponential start rate).next (some limit) words).1 =
      some (backFrom rate limit (limit - start) rejectionDraws words).1 := by
  have notBefore : ¬limit < (exponential start rate).start := UInt64.not_lt.mpr begun
  simp only [next, if_neg notBefore]

theorem next_mem {chooser : KeyChooser} (ordered : chooser.IsOrdered) {limit key : UInt64}
    (counts : chooser.CountsTo limit) {words : Words}
    (drawn : (chooser.next (some limit) words).1 = some key) :
    chooser.start ≤ key ∧ key ≤ limit := by
  have begun : chooser.start ≤ limit := by
    refine UInt64.not_lt.mp fun before => ?_
    unfold next at drawn
    dsimp only at drawn
    rw [if_pos before] at drawn
    cases drawn
  cases chooser with
  | uniform start finish =>
      obtain ⟨other, came, low, high, -⟩ := next_uniform ordered begun words
      rw [drawn] at came
      cases came
      exact ⟨low, high⟩
  | exponential start rate =>
      change start ≤ limit at begun
      rw [next_exponential begun] at drawn
      cases drawn
      exact backFrom_mem begun counts rate rejectionDraws words

/-- Without a newest record in the range no key is drawn. -/
theorem next_eq_none {chooser : KeyChooser} {acknowledged : Option UInt64}
    (before : ∀ limit, acknowledged = some limit → limit < chooser.start) (words : Words) :
    (chooser.next acknowledged words).1 = none := by
  cases acknowledged with
  | none => rfl
  | some limit =>
      unfold next
      dsimp only
      rw [if_pos (before limit rfl)]

/-- The uniform law that was set up knows the last key of its range. -/
theorem uniform_of_ofLaw {start count : UInt64} {chooser : KeyChooser}
    (made : ofLaw .uniform start count = .ok chooser) :
    ∃ finish, chooser = .uniform start finish ∧ start ≤ finish ∧
      finish.toNat < start.toNat + count.toNat := by
  unfold ofLaw at made
  split at made
  · cases made
  · rename_i some
    split at made
    · cases made
    · rename_i fits
      injection made with equal
      have positive := Word.toNat_pos some
      have one : (1 : UInt64) ≤ count := UInt64.le_iff_toNat_le.mpr positive
      have less : (count - 1).toNat = count.toNat - 1 := UInt64.toNat_sub_of_le _ _ one
      have last : (start + (count - 1)).toNat = start.toNat + (count.toNat - 1) := by
        rw [Word.toNat_add (by rw [less]; exact Nat.lt_of_not_le fits), less]
      refine ⟨_, equal.symm, ?_, ?_⟩
      · rw [UInt64.le_iff_toNat_le, last]
        exact Nat.le_add_right _ _
      · omega

theorem exponential_of_ofLaw {percentile fraction : Float} {start count : UInt64}
    {chooser : KeyChooser}
    (made : ofLaw (.exponential percentile fraction) start count = .ok chooser) :
    ∃ rate, chooser = .exponential start rate := by
  unfold ofLaw at made
  split at made
  · cases made
  · split at made
    · cases made
    · dsimp only at made
      split at made
      · injection made with equal
        exact ⟨_, equal.symm⟩
      · cases made

/-- A law that was set up knows a range that is not empty. -/
theorem isOrdered_of_ofLaw {law : KeyLaw} {start count : UInt64} {chooser : KeyChooser}
    (made : ofLaw law start count = .ok chooser) :
    chooser.IsOrdered ∧ chooser.start = start := by
  cases law with
  | uniform =>
      obtain ⟨finish, rfl, ordered, -⟩ := uniform_of_ofLaw made
      exact ⟨ordered, rfl⟩
  | exponential percentile fraction =>
      obtain ⟨rate, rfl⟩ := exponential_of_ofLaw made
      exact ⟨trivial, rfl⟩

theorem countsTo_of_uniform {start count : UInt64} {chooser : KeyChooser}
    (made : ofLaw .uniform start count = .ok chooser) (limit : UInt64) :
    chooser.CountsTo limit := by
  obtain ⟨finish, rfl, -, -⟩ := uniform_of_ofLaw made
  trivial

theorem countsTo_of_lt {chooser : KeyChooser} {limit : UInt64} (begun : chooser.start ≤ limit)
    (short : limit.toNat < 2 * Double.leastNormal) : chooser.CountsTo limit := by
  cases chooser with
  | uniform start finish => trivial
  | exponential start rate =>
      have back : (limit - start).toNat = limit.toNat - start.toNat :=
        UInt64.toNat_sub_of_le _ _ begun
      rw [CountsTo, back]
      exact Nat.lt_of_le_of_lt (Nat.sub_le _ _) short

end KeyChooser

end SpatialWorkload

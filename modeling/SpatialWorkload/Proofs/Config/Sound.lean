import SpatialWorkload.Config.Settings
import SpatialWorkload.Proofs.Duration
import SpatialWorkload.Proofs.Run.Prepare

/-!
# Sound configurations

What a configuration that was read from properties can be relied on for.  Every check
leaves a fact behind, and the facts of all checks together are soundness.  Reading aborts
in one case only, a retry interval that is a number of seconds but too long to be one.
-/

namespace SpatialWorkload

open Workload (ok_of_bind orStop_eq_ok)

def IsLetter (c : Char) : Prop :=
  65 ≤ c.toNat ∧ c.toNat ≤ 90 ∨ 97 ≤ c.toNat ∧ c.toNat ≤ 122

def IsDigit (c : Char) : Prop :=
  48 ≤ c.toNat ∧ c.toNat ≤ 57

inductive IsPlainName : List Char → Prop where
  | intro {first : Char} {rest : List Char} (start : IsLetter first ∨ first = '_')
      (others : ∀ c ∈ rest, IsLetter c ∨ IsDigit c ∨ c = '_') : IsPlainName (first :: rest)

structure IsWeight (weight : Float) : Prop where
  finite : weight.isFinite = true
  notNegative : 0 ≤ weight

def Range.IsOrdered (range : Range) : Prop :=
  range.min ≤ range.max

def KeyLaw.IsProper : KeyLaw → Prop
  | uniform => True
  | exponential percentile fraction => 0 < percentile ∧ percentile < 100 ∧ 0 < fraction

structure Config.IsSound (config : Config) : Prop where
  table : IsPlainName config.table.toList
  neighbours : config.neighbours.IsOrdered
  distanceKm : config.distanceKm.IsOrdered
  polygonKm : config.polygonKm.IsOrdered
  oneNeighbour : 1 ≤ config.neighbours.min
  knn : IsWeight config.mix.knn
  distance : IsWeight config.mix.distance
  polygon : IsWeight config.mix.polygon
  oneThread : 1 ≤ config.threadCount
  law : config.keyLaw.IsProper
  counted : config.recordCount ≠ 0 → ∃ count, config.insertCount = some count ∧
    config.insertStart.toNat + count.toNat ≤ config.recordCount.toNat

theorem isAsciiLetter_iff (c : Char) : isAsciiLetter c = true ↔ IsLetter c := by
  have byCode (a b : Char) : a ≤ b ↔ a.toNat ≤ b.toNat := Iff.rfl
  simp only [isAsciiLetter, Bool.or_eq_true, Bool.and_eq_true, decide_eq_true_eq, byCode]
  exact or_comm

theorem isDigit_iff (c : Char) : c.isDigit = true ↔ IsDigit c := by
  simp only [Char.isDigit, Bool.and_eq_true, decide_eq_true_eq]
  exact Iff.rfl

theorem isIdentifier_iff (letters : List Char) :
    isIdentifier letters = true ↔ IsPlainName letters := by
  cases letters with
  | nil =>
      constructor
      · intro plain; cases plain
      · intro plain; cases plain
  | cons first rest =>
      simp only [isIdentifier, Bool.and_eq_true, Bool.or_eq_true, List.all_eq_true,
        isAsciiLetter_iff, isDigit_iff, beq_iff_eq, or_assoc]
      constructor
      · rintro ⟨start, others⟩
        exact .intro start others
      · rintro ⟨start, others⟩
        exact ⟨start, others⟩

theorem checkIdentifier_eq_ok_iff {name : String} :
    checkIdentifier name = .ok () ↔ IsPlainName name.toList := by
  rw [← isIdentifier_iff]
  unfold checkIdentifier
  split
  · rename_i plain
    exact iff_of_true rfl plain
  · rename_i strange
    exact iff_of_false (fun passed => by cases passed) strange

namespace Properties

theorem isOrdered_of_rangeOr {properties : Properties} {minKey maxKey : String}
    {min max : UInt64} {range : Range}
    (read : properties.rangeOr minKey maxKey min max = .ok range) : range.IsOrdered := by
  unfold rangeOr at read
  obtain ⟨low, -, read⟩ := ok_of_bind read
  obtain ⟨high, -, read⟩ := ok_of_bind read
  split at read
  · cases read
  · rename_i ordered
    cases read
    exact UInt64.not_lt.mp ordered

theorem isWeight_of_weight {properties : Properties} {key : String} {value : Float}
    (read : properties.weight key = .ok value) : IsWeight value := by
  unfold weight at read
  obtain ⟨number, -, read⟩ := ok_of_bind read
  split at read
  · cases read
  · rename_i fine
    rw [not_or, not_not] at fine
    cases read
    exact ⟨fine.2, Double.zero_le_of_not_lt fine.2 fine.1⟩

/-- With a record count there is an insert count, and the range it makes ends within. -/
theorem counted_of_checkInsertRange {properties : Properties} {recordCount insertStart : UInt64}
    {insertCount : Option UInt64}
    (read : properties.insertCount recordCount insertStart = .ok insertCount)
    (passed : checkInsertRange recordCount insertStart insertCount = .ok ())
    (given : recordCount ≠ 0) : ∃ count, insertCount = some count ∧
      insertStart.toNat + count.toNat ≤ recordCount.toNat := by
  cases insertCount with
  | none =>
      unfold Properties.insertCount at read
      obtain ⟨found, -, read⟩ := ok_of_bind read
      cases found with
      | some count => cases read
      | none =>
          have positive : 0 < recordCount := UInt64.pos_iff_ne_zero.mpr given
          dsimp only at read
          rw [if_pos positive] at read
          cases read
  | some count =>
      refine ⟨count, rfl, ?_⟩
      simp only [checkInsertRange, if_neg given] at passed
      split at passed
      · cases passed
      · split at passed
        · cases passed
        · rename_i within
          exact Nat.le_of_not_lt within

theorem seconds_of_retrySeconds {properties : Properties} {seconds : Float}
    (read : properties.retrySeconds = .ok seconds) : 0 ≤ seconds ∧ seconds.isFinite = true := by
  unfold retrySeconds at read
  obtain ⟨number, -, read⟩ := ok_of_bind read
  split at read
  · rename_i fine
    cases read
    exact fine
  · cases read

theorem le_of_atLeastOne {key : String} {value : UInt64} (passed : atLeastOne key value = .ok ()) :
    1 ≤ value := by
  unfold atLeastOne at passed
  split at passed
  · cases passed
  · rename_i nonzero
    have positive := UInt64.pos_iff_ne_zero.mpr nonzero
    exact UInt64.le_iff_toNat_le.mpr (UInt64.lt_iff_toNat_lt.mp positive)

theorem isProper_of_keyLaw {properties : Properties} {law : KeyLaw}
    (read : properties.keyLaw = .ok law) : law.IsProper := by
  unfold keyLaw at read
  split at read
  · cases read
    trivial
  · obtain ⟨percentile, -, read⟩ := ok_of_bind read
    obtain ⟨fraction, -, read⟩ := ok_of_bind read
    split at read
    · cases read
    · rename_i inside
      split at read
      · cases read
      · rename_i positive
        cases read
        rw [not_not] at inside positive
        exact ⟨inside.1, inside.2, positive⟩
  · cases read

end Properties

namespace Config

/-- Every setting of a configuration with the reading it comes from. -/
structure IsReadFrom (config : Config) (properties : Properties) (seconds : Float) : Prop where
  name : config.table = (properties.get? Key.table).getD "GEOPOINTS"
  identifier : checkIdentifier config.table = .ok ()
  recordCount : properties.readOr Decimal.word64? Key.recordCount 0 = .ok config.recordCount
  insertStart : properties.readOr Decimal.word64? Key.insertStart 0 = .ok config.insertStart
  insertCount : properties.insertCount config.recordCount config.insertStart =
    .ok config.insertCount
  within : Properties.checkInsertRange config.recordCount config.insertStart config.insertCount =
    .ok ()
  knn : properties.weight Key.knnWeight = .ok config.mix.knn
  distance : properties.weight Key.distanceWeight = .ok config.mix.distance
  polygon : properties.weight Key.polygonWeight = .ok config.mix.polygon
  neighbours : properties.rangeOr Key.minNeighbours Key.maxNeighbours 1 10 = .ok config.neighbours
  oneNeighbour : Properties.atLeastOne Key.minNeighbours config.neighbours.min = .ok ()
  distanceKm : properties.rangeOr Key.minDistance Key.maxDistance 1 100 = .ok config.distanceKm
  polygonKm : properties.rangeOr Key.minPolygonDistance Key.maxPolygonDistance 1 100 =
    .ok config.polygonKm
  retrySeconds : properties.retrySeconds = .ok seconds
  threadCount : properties.readOr Decimal.word64? Key.threadCount 1 = .ok config.threadCount
  oneThread : Properties.atLeastOne Key.threadCount config.threadCount = .ok ()
  retryLimit : properties.readOr Decimal.word32? Key.retryLimit 0 = .ok config.retryLimit
  retryInterval : Duration.ofSeconds? seconds = some config.retryInterval
  keyLaw : properties.keyLaw = .ok config.keyLaw
  preloaded : properties.readOr Text.truth? Key.preloaded false = .ok config.preloaded
  datasetPath : config.datasetPath = properties.get? Key.datasetPath
  skipMalformed : properties.readOr Text.truth? Key.skipMalformed false = .ok config.skipMalformed
  backend : config.backend = (properties.get? Key.backend).getD "memory"
  operationCount : properties.readOr Decimal.word64? Key.operationCount 0 =
    .ok config.operationCount

theorem isReadFrom_of_ofProperties {properties : Properties} {config : Config}
    (read : ofProperties properties = .ok config) :
    ∃ seconds, config.IsReadFrom properties seconds := by
  unfold ofProperties at read
  obtain ⟨⟨⟩, identifier, read⟩ := ok_of_bind read
  obtain ⟨recordCount, recordCountRead, read⟩ := ok_of_bind read
  obtain ⟨insertStart, insertStartRead, read⟩ := ok_of_bind read
  obtain ⟨insertCount, insertCountRead, read⟩ := ok_of_bind read
  obtain ⟨⟨⟩, within, read⟩ := ok_of_bind read
  obtain ⟨knn, knnRead, read⟩ := ok_of_bind read
  obtain ⟨distance, distanceRead, read⟩ := ok_of_bind read
  obtain ⟨polygon, polygonRead, read⟩ := ok_of_bind read
  obtain ⟨neighbours, neighboursRead, read⟩ := ok_of_bind read
  obtain ⟨⟨⟩, oneNeighbour, read⟩ := ok_of_bind read
  obtain ⟨distanceKm, distanceKmRead, read⟩ := ok_of_bind read
  obtain ⟨polygonKm, polygonKmRead, read⟩ := ok_of_bind read
  obtain ⟨seconds, secondsRead, read⟩ := ok_of_bind read
  obtain ⟨threadCount, threadCountRead, read⟩ := ok_of_bind read
  obtain ⟨⟨⟩, oneThread, read⟩ := ok_of_bind read
  obtain ⟨retryLimit, retryLimitRead, read⟩ := ok_of_bind read
  split at read
  · rename_i retryInterval isDuration
    obtain ⟨law, lawRead, read⟩ := ok_of_bind read
    obtain ⟨preloaded, preloadedRead, read⟩ := ok_of_bind read
    obtain ⟨skipMalformed, skipMalformedRead, read⟩ := ok_of_bind read
    obtain ⟨operationCount, operationCountRead, read⟩ := ok_of_bind read
    cases read
    exact ⟨seconds, {
      name := rfl
      identifier := orStop_eq_ok identifier
      recordCount := orStop_eq_ok recordCountRead
      insertStart := orStop_eq_ok insertStartRead
      insertCount := orStop_eq_ok insertCountRead
      within := orStop_eq_ok within
      knn := orStop_eq_ok knnRead
      distance := orStop_eq_ok distanceRead
      polygon := orStop_eq_ok polygonRead
      neighbours := orStop_eq_ok neighboursRead
      oneNeighbour := orStop_eq_ok oneNeighbour
      distanceKm := orStop_eq_ok distanceKmRead
      polygonKm := orStop_eq_ok polygonKmRead
      retrySeconds := orStop_eq_ok secondsRead
      threadCount := orStop_eq_ok threadCountRead
      oneThread := orStop_eq_ok oneThread
      retryLimit := orStop_eq_ok retryLimitRead
      retryInterval := isDuration
      keyLaw := orStop_eq_ok lawRead
      preloaded := orStop_eq_ok preloadedRead
      datasetPath := rfl
      skipMalformed := orStop_eq_ok skipMalformedRead
      backend := rfl
      operationCount := orStop_eq_ok operationCountRead }⟩
  · cases read

/-- What every reading checks its settings for. -/
theorem IsReadFrom.isSound {config : Config} {properties : Properties} {seconds : Float}
    (read : config.IsReadFrom properties seconds) : config.IsSound where
  table := checkIdentifier_eq_ok_iff.mp read.identifier
  neighbours := Properties.isOrdered_of_rangeOr read.neighbours
  distanceKm := Properties.isOrdered_of_rangeOr read.distanceKm
  polygonKm := Properties.isOrdered_of_rangeOr read.polygonKm
  oneNeighbour := Properties.le_of_atLeastOne read.oneNeighbour
  knn := Properties.isWeight_of_weight read.knn
  distance := Properties.isWeight_of_weight read.distance
  polygon := Properties.isWeight_of_weight read.polygon
  oneThread := Properties.le_of_atLeastOne read.oneThread
  law := Properties.isProper_of_keyLaw read.keyLaw
  counted := Properties.counted_of_checkInsertRange read.insertCount read.within

/-- A step that can only refuse is passed by whatever aborts. -/
theorem aborted_of_bind {ε β γ : Type} {first : Except ε β} {rest : β → Except (Stop ε) γ}
    (ended : orStop first >>= rest = .error .aborted) :
    ∃ value, first = .ok value ∧ rest value = .error .aborted := by
  cases first with
  | error cause => cases ended
  | ok value => exact ⟨value, rfl, ended⟩

/-- Reading aborts only where the interval is no duration. -/
theorem limit_le_of_aborted {properties : Properties}
    (ended : ofProperties properties = .error .aborted) :
    ∃ seconds, properties.retrySeconds = .ok seconds ∧ Duration.limit ≤ seconds := by
  unfold ofProperties at ended
  obtain ⟨⟨⟩, -, ended⟩ := aborted_of_bind ended
  obtain ⟨recordCount, -, ended⟩ := aborted_of_bind ended
  obtain ⟨insertStart, -, ended⟩ := aborted_of_bind ended
  obtain ⟨insertCount, -, ended⟩ := aborted_of_bind ended
  obtain ⟨⟨⟩, -, ended⟩ := aborted_of_bind ended
  obtain ⟨knn, -, ended⟩ := aborted_of_bind ended
  obtain ⟨distance, -, ended⟩ := aborted_of_bind ended
  obtain ⟨polygon, -, ended⟩ := aborted_of_bind ended
  obtain ⟨neighbours, -, ended⟩ := aborted_of_bind ended
  obtain ⟨⟨⟩, -, ended⟩ := aborted_of_bind ended
  obtain ⟨distanceKm, -, ended⟩ := aborted_of_bind ended
  obtain ⟨polygonKm, -, ended⟩ := aborted_of_bind ended
  obtain ⟨seconds, secondsRead, ended⟩ := aborted_of_bind ended
  obtain ⟨threadCount, -, ended⟩ := aborted_of_bind ended
  obtain ⟨⟨⟩, -, ended⟩ := aborted_of_bind ended
  obtain ⟨retryLimit, -, ended⟩ := aborted_of_bind ended
  refine ⟨seconds, secondsRead, ?_⟩
  split at ended
  · obtain ⟨law, -, ended⟩ := aborted_of_bind ended
    obtain ⟨preloaded, -, ended⟩ := aborted_of_bind ended
    obtain ⟨skipMalformed, -, ended⟩ := aborted_of_bind ended
    obtain ⟨operationCount, -, ended⟩ := aborted_of_bind ended
    cases ended
  · rename_i noDuration
    obtain ⟨sign, -⟩ := Properties.seconds_of_retrySeconds secondsRead
    refine (Duration.ofSeconds?_eq_none_iff sign).mp ?_
    exact Option.eq_none_iff_forall_ne_some.mpr noDuration

end Config

namespace Properties

/-- Settings other than the bound one read as before. -/
theorem get?_bind_of_ne (properties : Properties) {key other : String} (differs : other ≠ key)
    (text : String) : (properties.bind key text).get? other = properties.get? other := by
  rw [get?, lookup?_bind, if_neg differs, get?]

theorem readOr_bind_of_ne {β : Type} (properties : Properties) {key other : String}
    (differs : other ≠ key) (text : String) (read : List Char → Option β) (otherwise : β) :
    (properties.bind key text).readOr read other otherwise =
      properties.readOr read other otherwise := by
  rw [readOr, read?, get?_bind_of_ne properties differs, readOr, read?]

theorem weight_bind_of_ne (properties : Properties) {key other : String}
    (differs : other ≠ key) (text : String) :
    (properties.bind key text).weight other = properties.weight other := by
  rw [weight, readOr_bind_of_ne properties differs, weight]

theorem rangeOr_bind_of_ne (properties : Properties) {key minKey maxKey : String}
    (minDiffers : minKey ≠ key) (maxDiffers : maxKey ≠ key) (text : String) (min max : UInt64) :
    (properties.bind key text).rangeOr minKey maxKey min max =
      properties.rangeOr minKey maxKey min max := by
  simp only [rangeOr, readOr_bind_of_ne properties minDiffers,
    readOr_bind_of_ne properties maxDiffers]

theorem insertCount_bind_of_ne (properties : Properties) {key : String}
    (differs : Key.insertCount ≠ key) (text : String) (recordCount insertStart : UInt64) :
    (properties.bind key text).insertCount recordCount insertStart =
      properties.insertCount recordCount insertStart := by
  rw [insertCount, read?, get?_bind_of_ne properties differs, insertCount, read?]

end Properties

namespace Config

theorem bind_of_ok {ε β γ : Type} {first : Except ε β} {value : β} (came : first = .ok value)
    (rest : β → Except (Stop ε) γ) : orStop first >>= rest = rest value := by
  rw [came]
  rfl

/-- In an accepted reading, an interval that is no duration makes an abort. -/
theorem IsReadFrom.aborts {config : Config} {properties : Properties} {seconds : Float}
    (read : config.IsReadFrom properties seconds) {text : String} {longer : Float}
    (long : (properties.bind Key.retryInterval text).retrySeconds = .ok longer)
    (limit : Duration.limit ≤ longer) :
    ofProperties (properties.bind Key.retryInterval text) = .error .aborted := by
  obtain ⟨sign, -⟩ := Properties.seconds_of_retrySeconds long
  have noDuration := (Duration.ofSeconds?_eq_none_iff sign).mpr limit
  have word {β : Type} {parse : List Char → Option β} {key : String} {otherwise value : β}
      (differs : key ≠ Key.retryInterval)
      (came : properties.readOr parse key otherwise = .ok value) :
      (properties.bind Key.retryInterval text).readOr parse key otherwise = .ok value := by
    rw [properties.readOr_bind_of_ne differs, came]
  have weight {key : String} {value : Float} (differs : key ≠ Key.retryInterval)
      (came : properties.weight key = .ok value) :
      (properties.bind Key.retryInterval text).weight key = .ok value := by
    rw [properties.weight_bind_of_ne differs, came]
  have range {minKey maxKey : String} {min max : UInt64} {value : Range}
      (minDiffers : minKey ≠ Key.retryInterval) (maxDiffers : maxKey ≠ Key.retryInterval)
      (came : properties.rangeOr minKey maxKey min max = .ok value) :
      (properties.bind Key.retryInterval text).rangeOr minKey maxKey min max = .ok value := by
    rw [properties.rangeOr_bind_of_ne minDiffers maxDiffers, came]
  have insertCount : (properties.bind Key.retryInterval text).insertCount config.recordCount
      config.insertStart = .ok config.insertCount := by
    rw [properties.insertCount_bind_of_ne (by decide), read.insertCount]
  have identifier := read.identifier
  rw [read.name, ← properties.get?_bind_of_ne (by decide : Key.table ≠ Key.retryInterval) text]
    at identifier
  unfold ofProperties
  rw [bind_of_ok identifier, bind_of_ok (word (by decide) read.recordCount),
    bind_of_ok (word (by decide) read.insertStart), bind_of_ok insertCount,
    bind_of_ok read.within, bind_of_ok (weight (by decide) read.knn),
    bind_of_ok (weight (by decide) read.distance), bind_of_ok (weight (by decide) read.polygon),
    bind_of_ok (range (by decide) (by decide) read.neighbours), bind_of_ok read.oneNeighbour,
    bind_of_ok (range (by decide) (by decide) read.distanceKm),
    bind_of_ok (range (by decide) (by decide) read.polygonKm), bind_of_ok long,
    bind_of_ok (word (by decide) read.threadCount), bind_of_ok read.oneThread,
    bind_of_ok (word (by decide) read.retryLimit), noDuration]

/--
Whatever the properties are, reading them ends with a sound configuration or with a refusal,
unless the retry interval is a number of seconds from `2 ^ 64` on.  Such an interval makes an
abort of everything that is accepted otherwise.
-/
theorem reading_ends (properties : Properties) :
    ((∃ config, ofProperties properties = .ok config ∧ config.IsSound) ∨
      (∃ cause, ofProperties properties = .error (.refused cause)) ∨
      ofProperties properties = .error .aborted ∧
        ∃ seconds, properties.retrySeconds = .ok seconds ∧ Duration.limit ≤ seconds) ∧
    ∀ config, ofProperties properties = .ok config → ∀ text seconds,
      (properties.bind Key.retryInterval text).retrySeconds = .ok seconds →
        Duration.limit ≤ seconds →
          ofProperties (properties.bind Key.retryInterval text) = .error .aborted := by
  constructor
  · cases outcome : ofProperties properties with
    | ok config =>
        obtain ⟨seconds, read⟩ := isReadFrom_of_ofProperties outcome
        exact Or.inl ⟨config, rfl, read.isSound⟩
    | error stop =>
        cases stop with
        | refused cause => exact Or.inr (Or.inl ⟨cause, rfl⟩)
        | aborted => exact Or.inr (Or.inr ⟨rfl, limit_le_of_aborted outcome⟩)
  · intro config accepted text seconds long limit
    obtain ⟨_, read⟩ := isReadFrom_of_ofProperties accepted
    exact read.aborts long limit

/-- The settings left out are accepted, and an interval of this length is all it takes. -/
theorem reading_ends_long_interval :
    (∃ config, ofProperties .empty = .ok config) ∧
      (Properties.empty.bind Key.retryInterval "1e20").retrySeconds = .ok 1e20 ∧
      Duration.limit ≤ 1e20 ∧
      ofProperties (Properties.empty.bind Key.retryInterval "1e20") = .error .aborted := by
  have long : Duration.limit ≤ 1e20 := by decide +kernel
  exact ⟨⟨_, rfl⟩, rfl, long, (reading_ends .empty).2 _ rfl "1e20" 1e20 rfl long⟩

/-- Twenty digits of seconds are neither read nor refused. -/
theorem reading_aborts :
    ofProperties (.ofList [("insertionretryinterval", "1e20")]) = .error .aborted := by
  rfl

end Config

end SpatialWorkload

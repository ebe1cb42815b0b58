import SpatialWorkload.Proofs.Run.Prepare
import SpatialWorkload.Proofs.Run.Received
import SpatialWorkload.Proofs.Run.Watermark

/-!
# The ledger of the inserts

What the counters of a workload say against what happened.  Three accounts are kept along
every run: how far the cursor has come against the calls made, what became of every index
that was handed out, and how many inserts were asked for.  They are closed when all insert
calls have returned.
-/

namespace SpatialWorkload

def Workload.firstIndices (workload : Workload) (count : Nat) : List UInt64 :=
  (List.range count).map fun place => workload.insertStart + UInt64.ofNat place

theorem Workload.firstIndices_succ (workload : Workload) (count : Nat) :
    workload.firstIndices (count + 1) =
      workload.firstIndices count ++ [workload.insertStart + UInt64.ofNat count] := by
  simp [firstIndices, List.range_succ]

theorem Workload.toNat_index {workload : Workload} {place : Nat}
    (fits : workload.insertStart.toNat + place < UInt64.size) :
    (workload.insertStart + UInt64.ofNat place).toNat = workload.insertStart.toNat + place :=
  Word.toNat_add_ofNat fits

theorem Workload.length_firstIndices (workload : Workload) (count : Nat) :
    (workload.firstIndices count).length = count := by
  simp [firstIndices]

def Post.isInserting : Post → Bool
  | busy .insert _ _ => true
  | _ => false

namespace Floor

variable {σ : Type} {workload : Workload} {backend : Backend σ} {floor next : Floor σ}
  {move : Move σ}

/-- Every call is on its way to the cursor or has been there, and the cursor counts them. -/
structure Served (workload : Workload) (floor : Floor σ) (fetched : Nat) : Prop where
  entered : floor.calls .insert = floor.due Standing.toEnter + fetched
  next : floor.world.shared.cursor.next = workload.insertStart + UInt64.ofNat fetched
  finish : floor.world.shared.cursor.finish.toNat = workload.insertFinish
  /-- The cursor is one word, and comes round to the range again after the last one. -/
  taken : workload.insertStart.toNat + fetched ≤ UInt64.size →
    floor.taken = workload.firstIndices (min fetched workload.insertCount.toNat)

/-- The watermark has been told every acknowledged index, once for each call that succeeded. -/
structure Marked (workload : Workload) (floor : Floor σ) : Prop where
  mark : floor.world.shared.acknowledged =
    workload.initialShared.acknowledged.acknowledgeAll floor.acknowledged
  returned : floor.returns .insert true = floor.acknowledged.length

/-- Every index handed out has been acknowledged, is in a worker's hands or was given up. -/
structure Settled (floor : Floor σ) (given : Multiset UInt64) : Prop where
  taken : (floor.taken : Multiset UInt64) =
    floor.acknowledged + floor.due Standing.toAcknowledge + floor.due Standing.toInsert + given
  success : floor.world.shared.tally.insert.success =
    UInt64.ofNat (floor.acknowledged.length + (floor.due Standing.toAcknowledge).card)
  failure : floor.world.shared.tally.insert.failure = UInt64.ofNat given.card
  abandoned : floor.world.shared.tally.abandonedInserts = UInt64.ofNat given.card

/-- Every insert asked for is under way, was the last for its index or is followed by a retry. -/
structure Retried (workload : Workload) (floor : Floor σ) (retried : Nat) : Prop where
  retries : floor.world.shared.tally.insertRetries = UInt64.ofNat retried
  asked : floor.insertsAsked + (floor.due Standing.toInsert).card =
    floor.taken.length + floor.due Standing.toAnswer + retried
  bounded : retried + floor.due (Standing.toRetry workload.config.retryLimit.toNat) ≤
    workload.config.retryLimit.toNat * floor.taken.length

namespace Served

variable {fetched : Nat}

theorem ofOpening (prepared : workload.IsPrepared) (store : σ) (crew : Nat) :
    (opening workload store crew).Served workload 0 where
  entered := by
    rw [due_eq_zero _ (standing_opening workload store crew) rfl]
    rfl
  next := (UInt64.add_zero workload.insertStart).symm
  finish := prepared.finish_initial
  taken _ := by
    rw [Nat.zero_min]
    rfl

/-- Before the cursor comes round, it hands out the next index while there is one. -/
theorem take (served : floor.Served workload fetched)
    (fits : workload.insertStart.toNat + fetched < UInt64.size) :
    floor.world.shared.cursor.take.1 =
      if fetched < workload.insertCount.toNat then
        some (workload.insertStart + UInt64.ofNat fetched)
      else none := by
  rw [Cursor.take, served.next]
  dsimp only
  refine if_congr ?_ rfl rfl
  rw [UInt64.lt_iff_toNat_lt, Workload.toNat_index fits, served.finish,
    Workload.insertFinish]
  omega

/-- What a deed away from the cursor leaves as it is. -/
theorem stays (served : floor.Served workload fetched)
    (cursor : next.world.shared.cursor = floor.world.shared.cursor)
    (entered : next.calls .insert = next.due Standing.toEnter + fetched)
    (taken : next.taken = floor.taken) : next.Served workload fetched := by
  refine ⟨entered, ?_, ?_, ?_⟩
  · rw [cursor, served.next]
  · rw [cursor, served.finish]
  · rw [taken]
    exact served.taken

/-- A call at the cursor counts it up. -/
theorem advances (served : floor.Served workload fetched)
    (cursor : next.world.shared.cursor = floor.world.shared.cursor.take.2)
    (entered : next.calls .insert = next.due Standing.toEnter + (fetched + 1))
    (taken : workload.insertStart.toNat + fetched < UInt64.size →
      next.taken = workload.firstIndices (min (fetched + 1) workload.insertCount.toNat)) :
    next.Served workload (fetched + 1) := by
  refine ⟨entered, ?_, ?_, taken⟩
  · rw [cursor]
    change floor.world.shared.cursor.next + 1 = _
    rw [served.next, UInt64.add_assoc, UInt64.ofNat_add]
    rfl
  · rw [cursor]
    exact served.finish

theorem deed (served : floor.Served workload fetched) (prepared : workload.IsPrepared)
    {before after : Standing} {news : List Event}
    (deed : Deed workload floor.world.shared.account before next.world.shared.account after news)
    (moves : Moves floor next before after news) :
    ∃ later, next.Served workload later := by
  have entered := served.entered
  have enter := moves.due Standing.toEnter
  have calls := moves.calls
  have taken := moves.taken
  generalize same : next.world.shared.account = account at deed
  have cursor := congrArg Account.cursor same
  change next.world.shared.cursor = _ at cursor
  cases deed with
  | exhausts nothing =>
      refine ⟨fetched + 1, served.advances cursor ?_ fun fits => ?_⟩
      · simp [Standing.toEnter] at enter calls
        omega
      · have took := served.take fits
        -- Every index of the range has its record, so that only a spent range gives nothing.
        have spent : workload.insertCount.toNat ≤ fetched := by
          by_contra inside
          rw [if_pos (Nat.lt_of_not_le inside)] at took
          exact prepared.get?_ne_none (served.finish ▸ UInt64.lt_iff_toNat_lt.mp
            (Cursor.of_take took).2) (nothing _ took)
        rw [Nat.min_eq_right (Nat.le_succ_of_le spent), taken, served.taken (Nat.le_of_lt fits),
          Nat.min_eq_right spent]
        exact List.append_nil _
  | fetches got =>
      refine ⟨fetched + 1, served.advances cursor ?_ fun fits => ?_⟩
      · simp [Standing.toEnter, Event.calls] at enter calls
        omega
      · change floor.world.shared.cursor.take.1 = _ at got
        rw [served.take fits] at got
        split at got
        · rename_i inside
          cases got
          rw [Nat.min_eq_left inside, Workload.firstIndices_succ, taken,
            served.taken (Nat.le_of_lt fits), Nat.min_eq_left (Nat.le_of_lt inside)]
          rfl
        · cases got
  | rests | calls | asks | inserts | abandons | retries | acknowledges =>
      refine ⟨fetched, served.stays cursor ?_ (taken.trans (List.append_nil _))⟩
      simp [Standing.toEnter, Event.calls] at enter calls
      omega

end Served

namespace Marked

theorem ofOpening (workload : Workload) (store : σ) (crew : Nat) :
    (opening workload store crew).Marked workload :=
  ⟨rfl, rfl⟩

theorem deed (marked : floor.Marked workload) {before after : Standing} {news : List Event}
    (deed : Deed workload floor.world.shared.account before next.world.shared.account after news)
    (moves : Moves floor next before after news) : next.Marked workload := by
  have acknowledged := moves.acknowledged
  have returns := moves.returns
  generalize same : next.world.shared.account = account at deed
  have mark := congrArg Account.acknowledged same
  change next.world.shared.acknowledged = _ at mark
  cases deed with
  | acknowledges =>
      rename_i id index
      have grown : next.acknowledged = floor.acknowledged ++ [index] := acknowledged
      constructor
      · rw [mark, grown, Watermark.acknowledgeAll_append, ← marked.mark]
        rfl
      · rw [returns, grown, List.length_append, marked.returned]
        rfl
  | _ =>
      have kept : next.acknowledged = floor.acknowledged := acknowledged.trans (List.append_nil _)
      constructor
      · rw [mark, kept]
        exact marked.mark
      · rw [returns, kept]
        exact marked.returned

end Marked

namespace Settled

variable {given : Multiset UInt64}

theorem ofOpening (workload : Workload) (store : σ) (crew : Nat) :
    (opening workload store crew).Settled 0 := by
  have idle := standing_opening workload store crew
  have insert : (opening workload store crew).due Standing.toInsert = 0 := due_eq_zero _ idle rfl
  have acknowledge : (opening workload store crew).due Standing.toAcknowledge = 0 :=
    due_eq_zero _ idle rfl
  refine ⟨?_, ?_, rfl, rfl⟩
  · rw [insert, acknowledge]
    rfl
  · rw [acknowledge]
    rfl

/-- Nothing is counted, and as much is inserted as before. -/
theorem stays (settled : floor.Settled given)
    (count : next.world.shared.tally.insert = floor.world.shared.tally.insert)
    (abandoned :
      next.world.shared.tally.abandonedInserts = floor.world.shared.tally.abandonedInserts)
    (taken : (next.taken : Multiset UInt64) = next.acknowledged +
      next.due Standing.toAcknowledge + next.due Standing.toInsert + given)
    (inserted : next.acknowledged.length + (next.due Standing.toAcknowledge).card =
      floor.acknowledged.length + (floor.due Standing.toAcknowledge).card) :
    next.Settled given := by
  refine ⟨taken, ?_, ?_, abandoned.trans settled.abandoned⟩
  · rw [count, inserted]
    exact settled.success
  · rw [count]
    exact settled.failure

theorem deed (settled : floor.Settled given) {before after : Standing} {news : List Event}
    (deed : Deed workload floor.world.shared.account before next.world.shared.account after news)
    (moves : Moves floor next before after news) : ∃ later, next.Settled later := by
  have whole := settled.taken
  have insert := moves.due Standing.toInsert
  have acknowledge := moves.due Standing.toAcknowledge
  have taken := moves.taken
  have acknowledged := moves.acknowledged
  generalize same : next.world.shared.account = account at deed
  have count := congrArg Account.insert same
  have abandoned := congrArg Account.abandoned same
  change next.world.shared.tally.insert = _ at count
  change next.world.shared.tally.abandonedInserts = _ at abandoned
  cases deed with
  | rests | calls | exhausts | asks | retries =>
      have held := add_right_cancel acknowledge
      have kept : next.acknowledged = floor.acknowledged := acknowledged.trans (List.append_nil _)
      refine ⟨given, settled.stays count abandoned ?_ (by rw [kept, held])⟩
      rw [taken, kept, held, add_right_cancel insert, ← whole]
      exact congrArg _ (List.append_nil _)
  | fetches =>
      rename_i id index _
      have more : next.due Standing.toInsert = floor.due Standing.toInsert + {index} :=
        (add_zero _).symm.trans insert
      have held := add_right_cancel acknowledge
      have kept : next.acknowledged = floor.acknowledged := acknowledged.trans (List.append_nil _)
      refine ⟨given, settled.stays count abandoned ?_ (by rw [kept, held])⟩
      rw [taken, kept, more, held, ← Multiset.coe_add, whole]
      change _ + ({index} : Multiset UInt64) = _
      abel
  | inserts =>
      rename_i index failed
      have less : next.due Standing.toInsert + {index} = floor.due Standing.toInsert :=
        insert.trans (add_zero _)
      have more : next.due Standing.toAcknowledge =
          floor.due Standing.toAcknowledge + {index} :=
        (add_zero _).symm.trans acknowledge
      have kept : next.acknowledged = floor.acknowledged := acknowledged.trans (List.append_nil _)
      refine ⟨given, ?_, ?_, ?_, abandoned.trans settled.abandoned⟩
      · rw [taken, kept, more, ← Multiset.coe_add, whole, ← less]
        change _ + (0 : Multiset UInt64) = _
        abel
      · rw [count, kept, more, Multiset.card_add, Multiset.card_singleton, ← Nat.add_assoc,
          UInt64.ofNat_add, ← settled.success]
        rfl
      · rw [count]
        exact settled.failure
  | abandons bad =>
      rename_i index failed status
      have less : next.due Standing.toInsert + {index} = floor.due Standing.toInsert :=
        insert.trans (add_zero _)
      have held := add_right_cancel acknowledge
      have kept : next.acknowledged = floor.acknowledged := acknowledged.trans (List.append_nil _)
      have failure : floor.world.shared.tally.insert.record status =
          { floor.world.shared.tally.insert with
            failure := floor.world.shared.tally.insert.failure + 1 } := by
        rw [Count.record, bad]
        rfl
      have more : UInt64.ofNat (given + {index}).card = UInt64.ofNat given.card + 1 := by
        rw [Multiset.card_add, Multiset.card_singleton, UInt64.ofNat_add]
        rfl
      refine ⟨given + {index}, ?_, ?_, ?_, ?_⟩
      · rw [taken, kept, held, ← Multiset.coe_add, whole, ← less]
        change _ + (0 : Multiset UInt64) = _
        abel
      · rw [count, kept, held]
        exact (congrArg Count.success failure).trans settled.success
      · rw [count, more]
        exact (congrArg Count.failure failure).trans (congrArg (· + 1) settled.failure)
      · rw [abandoned, more]
        exact congrArg (· + 1) settled.abandoned
  | acknowledges =>
      rename_i id index
      have held := add_right_cancel insert
      have less : next.due Standing.toAcknowledge + {index} =
          floor.due Standing.toAcknowledge :=
        acknowledge.trans (add_zero _)
      have grown : next.acknowledged = floor.acknowledged ++ [index] := acknowledged
      refine ⟨given, settled.stays count abandoned ?_ ?_⟩
      · rw [taken, grown, held, ← Multiset.coe_add, ← Multiset.coe_add, whole, ← less]
        change _ + (0 : Multiset UInt64) = _ + ({index} : Multiset UInt64) + _ + _ + _
        abel
      · have card := congrArg Multiset.card less
        rw [Multiset.card_add, Multiset.card_singleton] at card
        rw [grown, List.length_append, List.length_singleton, Nat.add_right_comm, Nat.add_assoc,
          card]

end Settled

namespace Retried

variable {retried : Nat}

theorem ofOpening (workload : Workload) (store : σ) (crew : Nat) :
    (opening workload store crew).Retried workload 0 := by
  have idle := standing_opening workload store crew
  refine ⟨rfl, ?_, ?_⟩
  · rw [due_eq_zero Standing.toInsert idle rfl,
      due_eq_zero Standing.toAnswer idle rfl]
    rfl
  · rw [due_eq_zero _ idle rfl]
    exact Nat.zero_le _

theorem deed (counts : floor.Retried workload retried) {before after : Standing}
    {news : List Event}
    (deed : Deed workload floor.world.shared.account before next.world.shared.account after news)
    (moves : Moves floor next before after news) : ∃ later, next.Retried workload later := by
  obtain ⟨retries, asked, bounded⟩ := counts
  have insert := congrArg Multiset.card (moves.due Standing.toInsert)
  have answer := moves.due Standing.toAnswer
  have retry := moves.due (Standing.toRetry workload.config.retryLimit.toNat)
  have taken := moves.taken
  have insertsAsked := moves.insertsAsked
  rw [Multiset.card_add, Multiset.card_add] at insert
  generalize same : next.world.shared.account = account at deed
  have words := congrArg Account.retries same
  change next.world.shared.tally.insertRetries = _ at words
  cases deed with
  | fetches =>
      have grown : next.taken.length = floor.taken.length + 1 := by
        rw [taken, List.length_append]
        rfl
      refine ⟨retried, words.trans retries, ?_, ?_⟩
      · simp [Standing.toInsert, Standing.toAnswer, Event.asks] at insert answer insertsAsked
        omega
      · simp [Standing.toRetry] at retry
        rw [grown, Nat.mul_add, Nat.mul_one, retry, ← Nat.add_assoc]
        exact Nat.add_le_add_right bounded _
  | retries left =>
      have kept : next.taken = floor.taken := taken.trans (List.append_nil _)
      refine ⟨retried + 1, ?_, ?_, ?_⟩
      · rw [words, UInt64.ofNat_add, ← retries]
        rfl
      · simp [Standing.toInsert, Standing.toAnswer] at insert answer insertsAsked
        rw [kept]
        omega
      · simp [Standing.toRetry] at retry
        rw [kept]
        omega
  | rests | calls | exhausts | asks | inserts | abandons | acknowledges =>
      have kept : next.taken = floor.taken := taken.trans (List.append_nil _)
      refine ⟨retried, words.trans retries, ?_, ?_⟩
      · simp [Standing.toInsert, Standing.toAnswer, Event.asks, Request.isInsert]
          at insert answer insertsAsked
        rw [kept]
        omega
      · simp [Standing.toRetry] at retry
        rw [kept]
        omega

end Retried

structure Booked (workload : Workload) (floor : Floor σ) : Prop where
  served : ∃ fetched, floor.Served workload fetched
  marked : floor.Marked workload
  settled : ∃ given, floor.Settled given
  retried : ∃ retried, floor.Retried workload retried

theorem Booked.ofOpening (prepared : workload.IsPrepared) (store : σ) (crew : Nat) :
    (opening workload store crew).Booked workload :=
  ⟨⟨0, .ofOpening prepared store crew⟩, .ofOpening workload store crew,
    ⟨0, .ofOpening workload store crew⟩, 0, .ofOpening workload store crew⟩

theorem Booked.turn (booked : floor.Booked workload) (prepared : workload.IsPrepared)
    (fits : floor.Fits) (unbroken : next.Unbroken)
    (turn : Turn workload backend floor move next) : next.Booked workload := by
  obtain ⟨⟨fetched, served⟩, marked, ⟨given, settled⟩, retried, counts⟩ := booked
  obtain ⟨before, after, news, deed, moves⟩ := turn.deed fits unbroken
  exact ⟨served.deed prepared deed moves, marked.deed deed moves, settled.deed deed moves,
    counts.deed deed moves⟩

theorem booked_run (prepared : workload.IsPrepared) (backend : Backend σ) (store : σ) (crew : Nat)
    (moves : List (Move σ)) :
    let floor := run workload backend moves (opening workload store crew)
    floor.Fits ∧ (floor.Unbroken → floor.Booked workload) := by
  refine run_keeps (fun _ => True)
    (fun floor => floor.Fits ∧ (floor.Unbroken → floor.Booked workload))
    ?_ moves (fun _ _ => trivial)
    ⟨.replicate_idle crew, fun _ => .ofOpening prepared store crew⟩
  rintro floor move next - ⟨fits, booked⟩ turn
  exact ⟨fits.turn turn, fun unbroken =>
    (booked (unbroken.before turn)).turn prepared fits unbroken turn⟩

def InsertsAreBack (floor : Floor σ) : Prop :=
  AllBusy (fun call _ => call ≠ .insert) floor.posts

instance (floor : Floor σ) : Decidable floor.InsertsAreBack :=
  decidable_of_iff (∀ post ∈ floor.posts, post.isInserting = false) <| by
    constructor
    · intro none call worker waiting member
      cases call with
      | insert => exact Bool.noConfusion (none _ member)
      | transaction => exact Call.noConfusion
    · intro back post member
      cases post with
      | idle => rfl
      | busy call worker waiting =>
          cases call with
          | insert => exact absurd rfl (back _ _ _ member)
          | transaction => rfl

theorem InsertsAreBack.unbroken (back : floor.InsertsAreBack) : floor.Unbroken :=
  back.imp fun _ _ other isInsert => absurd isInsert other

theorem InsertsAreBack.standing (back : floor.InsertsAreBack) (fits : floor.Fits) :
    ∀ post ∈ floor.posts, post.standing = .aside := by
  intro post member
  cases post with
  | idle => rfl
  | busy call worker waiting =>
      have other := back call worker waiting member
      have placed := fits call worker waiting member
      cases call with
      | insert => exact absurd rfl other
      | transaction =>
          obtain ⟨stage, words⟩ := worker
          cases stage <;> first | rfl | cases placed

def served (workload : Workload) (floor : Floor σ) : Nat :=
  min (floor.calls .insert) workload.insertCount.toNat

/-- What the counters of the inserts say is what happened. -/
structure IsBalanced (workload : Workload) (floor : Floor σ) : Prop where
  taken : floor.taken = workload.firstIndices (floor.served workload)
  distinct : floor.taken.Nodup
  /-- No call receives more than one index. -/
  single : ∀ later id index earlier, floor.history = later ++ .took id index :: earlier →
    HasJustCalled id earlier
  settled : floor.world.shared.tally.insert.success.toNat +
    floor.world.shared.tally.insert.failure.toNat = floor.served workload
  returned : floor.world.shared.tally.insert.success.toNat = floor.returns .insert true
  acknowledged : floor.world.shared.tally.insert.success.toNat = floor.acknowledged.length
  once : floor.acknowledged.Nodup
  own : floor.acknowledged ⊆ floor.taken
  mark : floor.world.shared.acknowledged =
    workload.initialShared.acknowledged.acknowledgeAll floor.acknowledged
  abandoned :
    floor.world.shared.tally.abandonedInserts = floor.world.shared.tally.insert.failure
  asked : UInt64.ofNat floor.insertsAsked = floor.world.shared.tally.insert.total +
    floor.world.shared.tally.insertRetries
  /-- While they can be counted in a word, the inserts asked for are counted exactly. -/
  counted : floor.insertsAsked < UInt64.size → floor.insertsAsked =
    floor.served workload + floor.world.shared.tally.insertRetries.toNat
  retries : floor.world.shared.tally.insertRetries.toNat ≤
    workload.config.retryLimit.toNat * floor.served workload

theorem nodup_firstIndices (prepared : workload.IsPrepared) {count : Nat}
    (within : count ≤ workload.insertCount.toNat) : (workload.firstIndices count).Nodup := by
  refine List.Nodup.map_on ?_ List.nodup_range
  intro first below second under same
  rw [List.mem_range] at below under
  have fits := prepared.fits
  unfold Workload.insertFinish at fits
  have places := congrArg UInt64.toNat same
  rw [Workload.toNat_index (by omega), Workload.toNat_index (by omega)] at places
  omega

/-- Before the cursor comes round, no index is handed out twice. -/
theorem Booked.nodup_taken (booked : floor.Booked workload) (prepared : workload.IsPrepared)
    (fits : workload.insertStart.toNat + floor.calls .insert ≤ UInt64.size) :
    floor.taken.Nodup := by
  obtain ⟨fetched, served⟩ := booked.served
  have entered := served.entered
  rw [served.taken (by omega)]
  exact nodup_firstIndices prepared (Nat.min_le_right _ _)

theorem Booked.isBalanced (booked : floor.Booked workload) (prepared : workload.IsPrepared)
    (received : floor.Received)
    (idle : ∀ post ∈ floor.posts, post.standing = .aside)
    (fits : workload.insertStart.toNat + floor.calls .insert ≤ UInt64.size) :
    floor.IsBalanced workload := by
  have distinct := booked.nodup_taken prepared fits
  obtain ⟨⟨fetched, served⟩, marked, ⟨given, settled⟩, retried, counts⟩ := booked
  have entered := served.entered
  rw [due_eq_zero _ idle rfl, Nat.zero_add] at entered
  subst entered
  have taken : floor.taken = workload.firstIndices (floor.served workload) := served.taken fits
  have length : floor.taken.length = floor.served workload := by
    rw [taken, Workload.length_firstIndices]
  have small : floor.served workload < UInt64.size :=
    Nat.lt_of_le_of_lt (Nat.min_le_right _ _) workload.insertCount.toNat_lt
  have whole : (floor.taken : Multiset UInt64) = floor.acknowledged + given := by
    rw [settled.taken, due_eq_zero _ idle rfl, due_eq_zero _ idle rfl, add_zero, add_zero]
  have card : floor.served workload = floor.acknowledged.length + given.card := by
    rw [← length, ← Multiset.coe_card, whole, Multiset.card_add, Multiset.coe_card]
  have success : floor.world.shared.tally.insert.success.toNat = floor.acknowledged.length := by
    rw [settled.success, due_eq_zero _ idle rfl]
    exact UInt64.toNat_ofNat_of_lt' (by simp only [Multiset.card_zero]; omega)
  have failure : floor.world.shared.tally.insert.failure.toNat = given.card := by
    rw [settled.failure]
    exact UInt64.toNat_ofNat_of_lt' (by omega)
  have asked : floor.insertsAsked = floor.served workload + retried := by
    have counted := counts.asked
    rw [due_eq_zero Standing.toInsert idle rfl,
      due_eq_zero Standing.toAnswer idle rfl, length] at counted
    exact counted
  have bounded : retried ≤ workload.config.retryLimit.toNat * floor.served workload :=
    length ▸ Nat.le_trans (Nat.le_add_right _ _) counts.bounded
  have part : (floor.acknowledged : Multiset UInt64) ≤ floor.taken :=
    whole ▸ Multiset.le_add_right _ _
  refine ⟨taken, distinct, ?_, ?_, ?_, success, ?_, ?_, marked.mark, ?_, ?_, ?_, ?_⟩
  · intro later id index earlier history
    have once := received.once id
    rw [history] at once
    exact once.split (beq_self_eq_true id)
  · rw [success, failure, card]
  · rw [success, marked.returned]
  · exact Multiset.coe_nodup.mp (Multiset.nodup_of_le part (Multiset.coe_nodup.mpr distinct))
  · exact fun index member => Multiset.mem_of_le part member
  · rw [settled.abandoned, settled.failure]
  · rw [Count.total, settled.success, settled.failure, counts.retries, asked, card,
      due_eq_zero _ idle rfl, UInt64.ofNat_add, UInt64.ofNat_add]
    rfl
  · intro countable
    rw [counts.retries, UInt64.toNat_ofNat_of_lt' (by omega), asked]
  · rw [counts.retries]
    exact Nat.le_trans (Nat.mod_le retried UInt64.size) bounded

/-- Once all insert calls have returned, before the cursor comes round, the ledger is closed. -/
theorem isBalanced_run (prepared : workload.IsPrepared) (backend : Backend σ) (store : σ)
    (crew : Nat) (moves : List (Move σ)) {floor : Floor σ}
    (ran : run workload backend moves (opening workload store crew) = floor)
    (back : floor.InsertsAreBack)
    (fits : workload.insertStart.toNat + floor.calls .insert ≤ UInt64.size) :
    floor.IsBalanced workload := by
  subst ran
  obtain ⟨placed, booked⟩ := booked_run prepared backend store crew moves
  exact (booked back.unbroken).isBalanced prepared
    (received_run workload backend store crew moves) (back.standing placed) fits

end Floor

end SpatialWorkload

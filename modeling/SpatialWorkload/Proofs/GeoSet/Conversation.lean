import SpatialWorkload.Proofs.GeoSet.Alone

/-!
# What sessions say

Every errand of a session as a conversation about the keys of its own table, in which nothing
is withdrawn as long as transactions add both halves or neither.  A scan is one search and one
request for the times of what it found.
-/

namespace SpatialWorkload.GeoSet

inductive Errand where
  | reset (table : String)
  | insert (table key : String) (position : Position Float)
  | scan (table : String) (query : Query Float)

namespace Errand

def table : Errand → String
  | reset table => table
  | insert table .. => table
  | scan table _ => table

def exchange : Errand → Exchange Float (List (Position Float))
  | reset table => (Session.reset table).bind fun _ => .done (.ok [])
  | insert table key position => (Session.insert table key position).bind fun _ => .done (.ok [])
  | scan table query => Session.scan table query

def IsOnMap : Errand → Prop
  | insert _ _ position => (Session.placeOf position).IsOnMap
  | _ => True

end Errand

namespace Request

def IsOnMap : Request Float → Prop
  | add _ longitude latitude _ _ => (Place.mk longitude latitude).IsOnMap
  | _ => True

/-- What the errands of a table send, as long as nothing has to be withdrawn. -/
structure IsPlain (table : String) (request : Request Float) : Prop where
  own : Keys.ofTable table = .ok request.keys
  noWithdrawal : request.isWithdrawal = false
  onMap : request.IsOnMap

/-- Both halves went in, or neither did. -/
def IsEven : (request : Request Float) → Except StoreError request.Reply → Prop
  | .add .., .ok (added, stamped) => added = stamped
  | _, _ => True

end Request

namespace Exchange

variable {β γ : Type} {table : String}

/-- A conversation that never withdraws anything while the halves are in step. -/
inductive IsPlain (table : String) : Exchange Float β → Prop where
  | done (result : Except StoreError β) : IsPlain table (.done result)
  | ask {request : Request Float} {next : Except StoreError request.Reply → Exchange Float β}
      (plain : request.IsPlain table)
      (goesOn : ∀ reply, request.IsEven reply → IsPlain table (next reply)) :
      IsPlain table (.ask request next)

theorem IsPlain.bind {first : Exchange Float β} {next : β → Exchange Float γ}
    (plain : first.IsPlain table) (rest : ∀ value, (next value).IsPlain table) :
    (first.bind next).IsPlain table := by
  induction plain with
  | done result =>
      cases result with
      | ok value => exact rest value
      | error error => exact .done _
  | ask plain goesOn ih => exact .ask plain ih

theorem IsPlain.send {request : Request Float} (plain : request.IsPlain table) :
    (Exchange.send request).IsPlain table :=
  .ask plain fun _ _ => .done _

/-- Giving back the result as it is adds nothing. -/
theorem bind_done (exchange : Exchange Float β) :
    (exchange.bind fun value => .done (.ok value)) = exchange := by
  induction exchange with
  | done result => cases result <;> rfl
  | ask request next ih => exact congrArg (Exchange.ask request) (funext ih)

end Exchange

namespace Session

variable {table : String} {keys : Keys}

def finish (keys : Keys) (hits : List (Hit Float))
    (keep : List (Position Float) → List (Position Float)) :
    Exchange Float (List (Position Float)) :=
  (withStamps keys hits).bind fun positions => .done (.ok (keep positions))

/-- A scan asks for nothing, or it makes a search and goes on with some of what is found. -/
theorem scan_cases (named : Keys.ofTable table = .ok keys) (query : Query Float) :
    (∃ found, scan table query = .done (.ok found)) ∨
    ∃ longitude latitude km count, ∃ choose : List (Hit Float) → List (Hit Float), ∃ keep,
      (∀ hits, choose hits ⊆ hits) ∧
      scan table query = (Exchange.send (.search keys longitude latitude km count)).bind
        fun hits => finish keys (choose hits) keep := by
  cases query with
  | nearest latitude longitude count =>
      simp only [scan]
      split
      · exact Or.inl ⟨_, rfl⟩
      · refine Or.inr ⟨longitude, latitude, wholePlanetKm, some count, id, id,
          fun hits => List.Subset.refl hits, ?_⟩
        rw [named]
        exact congrArg (Exchange.bind _)
          (funext fun hits => (Exchange.bind_done (withStamps keys hits)).symm)
  | within latitude longitude km =>
      simp only [scan]
      rw [named]
      exact Or.inr ⟨longitude, latitude, _, none, id, _, fun hits => List.Subset.refl hits, rfl⟩
  | inside ring =>
      simp only [scan]
      split
      · exact Or.inl ⟨_, rfl⟩
      · split
        · exact Or.inl ⟨_, rfl⟩
        · rename_i circle enclosing
          rw [named]
          refine Or.inr ⟨circle.longitude, circle.latitude,
            Sphere.widenRadiusKm circle.radiusKm nativeRadiusKm, none,
            List.filter fun hit => Ring.contains (Ring.openRing ring) hit.latitude hit.longitude,
            id, fun hits => List.filter_subset_self hits, ?_⟩
          exact congrArg (Exchange.bind _)
            (funext fun hits => (Exchange.bind_done (withStamps keys _)).symm)

theorem scan_of_error {error : StoreError} (refused : Keys.ofTable table = .error error)
    (query : Query Float) : ∃ result, scan table query = .done result := by
  cases query with
  | nearest latitude longitude count =>
      simp only [scan]
      split
      · exact ⟨_, rfl⟩
      · rw [refused]
        exact ⟨_, rfl⟩
  | within latitude longitude km =>
      simp only [scan]
      rw [refused]
      exact ⟨_, rfl⟩
  | inside ring =>
      simp only [scan]
      split
      · exact ⟨_, rfl⟩
      · split
        · exact ⟨_, rfl⟩
        · rw [refused]
          exact ⟨_, rfl⟩

theorem isPlain_finish (named : Keys.ofTable table = .ok keys) (hits : List (Hit Float))
    (keep : List (Position Float) → List (Position Float)) :
    (finish keys hits keep).IsPlain table := by
  refine Exchange.IsPlain.bind ?_ fun positions => .done _
  unfold withStamps
  split
  · exact .done _
  · exact .bind (.send ⟨named, rfl, trivial⟩) fun stamps => .done _

theorem isPlain_scan (table : String) (query : Query Float) :
    (scan table query).IsPlain table := by
  cases named : Keys.ofTable table with
  | error error =>
      obtain ⟨result, ended⟩ := scan_of_error named query
      rw [ended]
      exact .done _
  | ok keys =>
      rcases scan_cases named query with ⟨found, ended⟩ | ⟨_, _, _, _, choose, keep, -, searches⟩
      · rw [ended]
        exact .done _
      · rw [searches]
        exact .bind (.send ⟨named, rfl, trivial⟩)
          fun hits => isPlain_finish named (choose hits) keep

theorem isPlain_insert {position : Position Float} (table key : String)
    (onMap : (placeOf position).IsOnMap) : (insert table key position).IsPlain table := by
  cases named : Keys.ofTable table with
  | error error =>
      unfold insert
      rw [named]
      exact .done _
  | ok keys =>
      rw [insert_eq named onMap]
      refine .ask ⟨named, rfl, onMap⟩ fun reply even => ?_
      cases reply with
      | error error => exact .done _
      | ok counts =>
          obtain ⟨added, stamped⟩ := counts
          replace even : added = stamped := even
          change (settle keys key added stamped).IsPlain table
          rw [settle, if_pos even]
          exact .done _

theorem isPlain_reset (table : String) : (reset table).IsPlain table := by
  unfold reset
  cases named : Keys.ofTable table with
  | error error => exact .done _
  | ok keys => exact .ask ⟨named, rfl, trivial⟩ fun _ _ => .done _

end Session

namespace Session

variable {table : String} {keys : Keys} {hits : List (Hit Float)}

/-- The end of a scan that has missed the time of a member. -/
def LacksTime (keys : Keys) {β : Type} (result : Except StoreError β) : Prop :=
  ∃ member : String, result =
    .error (.unexpectedState s!"redis: {member} has no timestamp in {keys.time}")

theorem not_lacksTime_backend (keys : Keys) {β : Type} (reason : String) :
    ¬LacksTime keys (.error (.backend reason) : Except StoreError β) := by
  rintro ⟨member, same⟩
  cases same

theorem not_lacksTime_ok (keys : Keys) {β : Type} (value : β) :
    ¬LacksTime keys (.ok value : Except StoreError β) := by
  rintro ⟨member, same⟩
  cases same

def answer (keys : Keys) (hits : List (Hit Float))
    (keep : List (Position Float) → List (Position Float)) (stamps : List (Option String)) :
    Except StoreError (List (Position Float)) :=
  ((hits.zip stamps).mapM fun found => position keys found.1 found.2).map keep

theorem finish_of_isEmpty (empty : hits.isEmpty = true)
    (keep : List (Position Float) → List (Position Float)) :
    finish keys hits keep = .done (.ok (keep [])) := by
  rw [finish, withStamps, if_pos empty]
  rfl

theorem finish_of_not_isEmpty (some : ¬hits.isEmpty = true)
    (keep : List (Position Float) → List (Position Float)) :
    finish keys hits keep = (Exchange.send (.stamps keys (hits.map Hit.member))).bind
      fun stamps => .done (answer keys hits keep stamps) := by
  rw [finish, withStamps, if_neg some]
  refine congrArg (Exchange.ask _) (funext fun reply => ?_)
  cases reply with
  | error error => rfl
  | ok stamps =>
      change (Exchange.done _).bind _ = Exchange.done (answer keys hits keep stamps)
      unfold answer
      generalize ((hits.zip stamps).mapM fun found => position keys found.1 found.2 :
        Except StoreError (List (Position Float))) = positions
      cases positions <;> rfl

theorem exists_of_mapM_error {β γ : Type} {f : β → Except StoreError γ} {values : List β}
    {error : StoreError} (failed : values.mapM f = .error error) :
    ∃ value ∈ values, f value = .error error := by
  induction values with
  | nil => cases failed
  | cons value values ih =>
      rw [List.mapM_cons] at failed
      cases outcome : f value with
      | error cause =>
          rw [outcome] at failed
          cases failed
          exact ⟨value, List.mem_cons_self, outcome⟩
      | ok result =>
          rw [outcome] at failed
          cases rest : values.mapM f with
          | error cause =>
              rw [rest] at failed
              cases failed
              obtain ⟨other, member, same⟩ := ih rest
              exact ⟨other, List.mem_cons_of_mem _ member, same⟩
          | ok results =>
              rw [rest] at failed
              cases failed

/-- A time that cannot be read is told from one that is not there. -/
theorem not_lacksTime_position (named : Keys.ofTable table = .ok keys) (hit : Hit Float)
    (text : String) : ¬LacksTime keys (position keys hit (some text)) := by
  rintro ⟨member, failed⟩
  unfold position at failed
  dsimp only at failed
  split at failed
  · cases failed
  · rename_i reason unread
    injection failed with same
    injection same with same
    rw [Keys.eq_of_ofTable named] at same
    have ends := congrArg (fun message : String => message.toList.reverse.take 2) same
    cases reason <;> simp [Timestamp.ReadError.message, toString] at ends

theorem not_lacksTime_answer (named : Keys.ofTable table = .ok keys)
    (times : String → Option String)
    (all : ∀ hit ∈ hits, (times hit.member).isSome = true)
    (keep : List (Position Float) → List (Position Float)) :
    ¬LacksTime keys (answer keys hits keep ((hits.map Hit.member).map times)) := by
  rintro ⟨member, failed⟩
  unfold answer at failed
  cases outcome : (hits.zip ((hits.map Hit.member).map times)).mapM
      (fun found => position keys found.1 found.2) with
  | ok positions =>
      rw [outcome] at failed
      cases failed
  | error error =>
      rw [outcome] at failed
      cases failed
      obtain ⟨⟨hit, stamp⟩, paired, lacks⟩ := exists_of_mapM_error outcome
      rw [List.map_map, ← List.map_id hits, List.map_map, List.zip_map'] at paired
      obtain ⟨found, there, same⟩ := List.mem_map.mp paired
      cases same
      obtain ⟨text, isTime⟩ := Option.isSome_iff_exists.mp (all found there)
      refine not_lacksTime_position named found text ⟨member, ?_⟩
      rw [← isTime]
      exact lacks

end Session

theorem Errand.isPlain_exchange {errand : Errand} (onMap : errand.IsOnMap) :
    errand.exchange.IsPlain errand.table := by
  cases errand with
  | reset table => exact (Session.isPlain_reset table).bind fun _ => .done _
  | insert table key position =>
    exact (Session.isPlain_insert table key onMap).bind fun _ => .done _
  | scan table query => exact Session.isPlain_scan table query

end SpatialWorkload.GeoSet

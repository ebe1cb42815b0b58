import SpatialWorkload.Proofs.GeoSet.Net

/-!
# Guarded inserts

A session lets an insert through unless it finds a coordinate beyond the server's map.  A
coordinate that is no number lies beyond nothing, and has no place on the map.  Apart from
such coordinates what the session lets through is what the server takes, and an insert that
fails with every request answered leaves the server as it was; with one, the transaction
leaves the time behind.
-/

namespace SpatialWorkload.GeoSet

namespace Exchange

variable {α β σ : Type}

def asked (serve : (request : Request α) → σ → Except StoreError request.Reply × σ) :
    Exchange α β → σ → List (Request α)
  | done _, _ => []
  | ask request next, server =>
      let (reply, server) := serve request server
      request :: (next reply).asked serve server

variable {serve other : (request : Request α) → σ → Except StoreError request.Reply × σ}

/-- Servers that answer alike what is asked hold the same conversation. -/
theorem run_congr {exchange : Exchange α β} {server : σ}
    (alike : ∀ request ∈ exchange.asked serve server, serve request = other request) :
    exchange.run serve server = exchange.run other server := by
  induction exchange generalizing server with
  | done result => rfl
  | ask request next ih =>
      have first := alike request List.mem_cons_self
      rw [run, run, ← first]
      apply ih
      intro later member
      exact alike later (List.mem_cons_of_mem _ member)

end Exchange

/-- A place with a coordinate that is no number, and none that is beyond the map. -/
def Place.SlipsThrough (place : Place) : Prop :=
  (place.latitude.isNaN ∨ place.longitude.isNaN) ∧
    (place.latitude.isNaN ∨ place.latitude.abs ≤ steepestIndexed) ∧
    (place.longitude.isNaN ∨ place.longitude.abs ≤ 180)

instance (place : Place) : Decidable place.SlipsThrough :=
  inferInstanceAs (Decidable (_ ∧ _))

namespace Place

variable {place : Place}

/-- Without its sign, what is no number is at most nothing. -/
theorem not_abs_le_of_isNaN {number bound : Float} (nothing : number.isNaN = true) :
    ¬number.abs ≤ bound := by
  intro le
  have isNumber := ((Double.le_iff_signedPlace _ _).mp le).1
  exact (Double.isNaN_iff number).mp nothing ((Double.isNumber_abs_iff number).mp isNumber)

theorem not_lt_abs_iff {number bound : Float} (isNumber : Double.IsNumber bound) :
    ¬bound < number.abs ↔ number.isNaN = true ∨ number.abs ≤ bound := by
  rw [Double.not_lt_iff isNumber, Double.isNumber_abs_iff, Double.isNaN_iff]

/-- The server has no place for what slips through. -/
theorem SlipsThrough.not_isOnMap (slips : place.SlipsThrough) : ¬place.IsOnMap := by
  rintro ⟨northSouth, eastWest⟩
  rcases slips.1 with nothing | nothing
  · exact not_abs_le_of_isNaN nothing northSouth
  · exact not_abs_le_of_isNaN nothing eastWest

end Place

namespace Session

variable {key : String} {position : Position Float}

/-- A session lets through what the server has a place for, and what is no place at all. -/
theorem checkIndexable_eq_ok_iff :
    checkIndexable key position = .ok () ↔
      (placeOf position).IsOnMap ∨ (placeOf position).SlipsThrough := by
  have let_through : checkIndexable key position = .ok () ↔
      ¬steepestIndexed < position.latitude.abs ∧ ¬180 < position.longitude.abs := by
    rw [← not_or]
    unfold checkIndexable
    split
    · rename_i beyond
      simp [beyond]
    · rename_i within
      simp [within]
  have limit : Double.IsNumber steepestIndexed :=
    (Double.le_self_iff _).mp (by decide +kernel)
  have half : Double.IsNumber 180 := (Double.le_self_iff _).mp (by decide +kernel)
  rw [let_through, Place.not_lt_abs_iff limit, Place.not_lt_abs_iff half]
  constructor
  · rintro ⟨northSouth, eastWest⟩
    by_cases nothing : position.latitude.isNaN = true ∨ position.longitude.isNaN = true
    · exact Or.inr ⟨nothing, northSouth, eastWest⟩
    · obtain ⟨north, east⟩ := not_or.mp nothing
      exact Or.inl ⟨northSouth.resolve_left north, eastWest.resolve_left east⟩
  · rintro (⟨northSouth, eastWest⟩ | ⟨-, northSouth, eastWest⟩)
    · exact ⟨Or.inr northSouth, Or.inr eastWest⟩
    · exact ⟨northSouth, eastWest⟩

/-- A session that does not let an insert through asks nothing. -/
theorem insert_eq_done {table : String} {error : StoreError}
    (refused : ((Keys.ofTable table).bind fun _ => checkIndexable key position) = .error error) :
    insert table key position = .done (.error error) := by
  unfold insert
  cases named : Keys.ofTable table with
  | error cause =>
      rw [named] at refused
      cases refused
      rfl
  | ok keys =>
      rw [named] at refused
      change checkIndexable key position = .error error at refused
      rw [refused]
      rfl

end Session

namespace Server

variable {finder : Finder} {table key : String} {keys : Keys} {position : Position Float}
  {server : Server}

/-- A server where the fate of a request may depend on the request. -/
def deliverEach (finder : Finder) (delivery : Request Float → Delivery) (request : Request Float)
    (server : Server) : Except StoreError request.Reply × Server :=
  server.deliver finder (delivery request) request

/-- Where every request that is made is answered, it does not matter what becomes of others. -/
theorem run_deliverEach {β : Type} {delivery : Request Float → Delivery}
    {exchange : Exchange Float β}
    (answered : ∀ request ∈ exchange.asked (deliverEach finder delivery) server,
      delivery request = .answered) :
    exchange.run (deliverEach finder delivery) server =
      exchange.run (hold finder .answered) server := by
  apply Exchange.run_congr
  intro request member
  funext state
  rw [deliverEach, hold, answered request member, ite_self]

/-- The transaction for a place that the server has none for leaves the time in. -/
theorem run_insert_unplaced (named : Keys.ofTable table = .ok keys)
    (passed : checkIndexable key position = .ok ())
    (offMap : ¬(Session.placeOf position).IsOnMap) :
    (Session.insert table key position).run (hold finder .answered) server =
      (.error (.backend "ERR invalid longitude,latitude pair"),
        (server.addTime keys key (Session.stampOf position)).2) := by
  rw [Session.insert_of_checked named passed]
  refine (Exchange.run_bind _ _ _ _).trans ?_
  have noPlace : server.addPlace keys key (Session.placeOf position) =
      (.error (.backend "ERR invalid longitude,latitude pair"), server) :=
    if_neg offMap
  rw [run_send_add, noPlace]
  rfl

theorem hasTime_addTime (time : String) :
    (server.addTime keys key time).2.hasTime keys key = true := by
  unfold addTime
  split
  · rename_i there
    exact there
  · exact hasTime_setTime _ _ _ _

theorem hasPlace_addTime (time member : String) :
    (server.addTime keys key time).2.hasPlace keys member = server.hasPlace keys member := by
  unfold addTime
  split <;> rfl

end Server

namespace Session

open Server

variable {finder : Finder} {table key : String} {position : Position Float} {server : Server}

/-- An insert of a place on the map that fails with its withdrawal answered changes nothing. -/
theorem run_insert_eq_of_error {keys : Keys} (named : Keys.ofTable table = .ok keys)
    (onMap : (placeOf position).IsOnMap)
    {error : StoreError}
    (failed : ((insert table key position).run (hold finder .answered) server).1 = .error error) :
    ((insert table key position).run (hold finder .answered) server).2 = server := by
  have whole := isWhole_insert named onMap finder .answered key server
  have notOk : ((insert table key position).run (hold finder .answered) server).1 ≠ .ok () := by
    rw [failed]
    exact nofun
  exact (whole.neither notOk (Or.inl rfl)).2

/-- Where no time stood without a place, none does after an insert of a place on the map. -/
theorem placed_of_timed {keys : Keys} (named : Keys.ofTable table = .ok keys)
    (onMap : (placeOf position).IsOnMap)
    (before : server.hasTime keys key = true → server.hasPlace keys key = true)
    (timed : ((insert table key position).run (hold finder .answered) server).2.hasTime keys key =
      true) :
    ((insert table key position).run (hold finder .answered) server).2.hasPlace keys key =
      true := by
  have whole := isWhole_insert named onMap finder .answered key server
  cases outcome : ((insert table key position).run (hold finder .answered) server).1 with
  | ok done => exact (whole.both outcome).1
  | error error =>
      rw [run_insert_eq_of_error named onMap outcome] at timed ⊢
      exact before timed

/--
An insert is let through if its place is on the server's map, and also if a coordinate is no
number and none is beyond the map.  Apart from this second case, and with every request
answered that it makes, an insert that fails leaves the server as it was, and no insert leaves
a time without a place where there was none before.  In the second case the transaction fails
after the time has gone in, and there it stays, whether the member has a place or not.
-/
theorem failed_insert_changes_nothing (finder : Finder) (delivery : Request Float → Delivery)
    (table key : String) (position : Position Float) (server : Server) :
    let place := placeOf position
    let ran := (insert table key position).run (deliverEach finder delivery) server
    let answered := ∀ request ∈ (insert table key position).asked (deliverEach finder delivery)
      server, delivery request = .answered
    (checkIndexable key position = .ok () ↔ place.IsOnMap ∨ place.SlipsThrough) ∧
    (¬place.SlipsThrough → answered →
      (∀ error, ran.1 = .error error → ran.2 = server) ∧
      ∀ keys, Keys.ofTable table = .ok keys →
        (server.hasTime keys key = true → server.hasPlace keys key = true) →
          ran.2.hasTime keys key = true → ran.2.hasPlace keys key = true) ∧
    (place.SlipsThrough → answered → ∀ keys, Keys.ofTable table = .ok keys →
      (∃ reason, ran.1 = .error (.backend reason)) ∧
        ran.2 = (server.addTime keys key (stampOf position)).2 ∧
        ran.2.hasTime keys key = true ∧
        ran.2.hasPlace keys key = server.hasPlace keys key) := by
  intro place ran answered
  refine ⟨checkIndexable_eq_ok_iff, ?_, ?_⟩
  · intro noSlip heard
    cases entry : (Keys.ofTable table).bind fun _ => checkIndexable key position with
    | error cause =>
        have same : ran = (.error cause, server) :=
          congrArg (Exchange.run _ · server) (insert_eq_done entry)
        rw [same]
        exact ⟨fun _ _ => rfl, fun _ _ before => before⟩
    | ok done =>
        cases named : Keys.ofTable table with
        | error cause =>
            rw [named] at entry
            cases entry
        | ok keys =>
            rw [named] at entry
            have onMap := (checkIndexable_eq_ok_iff.mp entry).resolve_right noSlip
            have same : ran = _ := run_deliverEach heard
            rw [same]
            constructor
            · intro error failed
              exact run_insert_eq_of_error named onMap failed
            · intro others sameTable
              cases sameTable
              exact placed_of_timed named onMap
  · intro slips heard keys named
    have passed : checkIndexable key position = .ok () :=
      checkIndexable_eq_ok_iff.mpr (Or.inr slips)
    have same : ran = _ := run_deliverEach heard
    rw [same, run_insert_unplaced named passed slips.not_isOnMap]
    exact ⟨⟨_, rfl⟩, rfl, hasTime_addTime _, hasPlace_addTime _ _⟩

def nowhere : Position Float := ⟨"a", Float.nan, 116.4, Timestamp.epoch⟩

/-- A time that was there alone is still there alone; one that slips through comes to be so. -/
theorem failed_insert_changes_nothing_half_present :
    let keys : Keys := ⟨"T:location", "T:time"⟩
    let late := Server.empty.setTime keys "a" (some "2008-02-02 13:30:49")
    let somewhere : Position Float := ⟨"a", 39.9, 116.4, Timestamp.epoch⟩
    let each := deliverEach (.ofMember "a") fun _ => .answered
    (∃ error, ((insert "T" "a" somewhere).run each late).1 = .error error ∧
      ((insert "T" "a" somewhere).run each late).2 = late) ∧
    (placeOf nowhere).SlipsThrough ∧
      ((insert "T" "a" nowhere).run each .empty).2.hasTime keys "a" = true := by
  intro keys late somewhere each
  have onMap : (placeOf somewhere).IsOnMap := by decide +kernel
  have noSlip : ¬(placeOf somewhere).SlipsThrough := by
    intro slips
    exact slips.not_isOnMap onMap
  have slips : (placeOf nowhere).SlipsThrough := by decide +kernel
  have named : Keys.ofTable "T" = .ok keys := rfl
  obtain ⟨error, failed⟩ : ∃ error, ((insert "T" "a" somewhere).run each late).1 =
      .error error := by
    have notOk : ((insert "T" "a" somewhere).run each late).1.isOk = false := by decide +kernel
    cases outcome : ((insert "T" "a" somewhere).run each late).1 with
    | error error => exact ⟨error, rfl⟩
    | ok done =>
        rw [outcome] at notOk
        cases notOk
  obtain ⟨-, numbers, -⟩ :=
    failed_insert_changes_nothing (.ofMember "a") (fun _ => .answered) "T" "a" somewhere late
  obtain ⟨-, -, others⟩ :=
    failed_insert_changes_nothing (.ofMember "a") (fun _ => .answered) "T" "a" nowhere .empty
  refine ⟨⟨error, failed, (numbers noSlip fun _ _ => rfl).1 error failed⟩, slips, ?_⟩
  exact (others slips (fun _ _ => rfl) keys named).2.2.1

/-- An insert that fails in the transaction, every request answered, and leaves a lone time. -/
theorem insert_leaves_lone_time :
    let keys : Keys := ⟨"T:location", "T:time"⟩
    let ran := (insert "T" "a" nowhere).run
      (deliverEach (.ofMember "a") fun _ => .answered) .empty
    checkIndexable "a" nowhere = .ok () ∧ ¬(placeOf nowhere).IsOnMap ∧
      ran.1 = .error (.backend "ERR invalid longitude,latitude pair") ∧
      ran.2.hasTime keys "a" = true ∧ ran.2.hasPlace keys "a" = false ∧
      ran.2 ≠ Server.empty := by
  intro keys ran
  have timed : ran.2.hasTime keys "a" = true := by decide +kernel
  refine ⟨rfl, by decide +kernel, rfl, timed, rfl, ?_⟩
  intro same
  rw [same] at timed
  cases timed

end Session

end SpatialWorkload.GeoSet

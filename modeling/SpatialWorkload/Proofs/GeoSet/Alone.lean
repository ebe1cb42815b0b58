import SpatialWorkload.Proofs.GeoSet.Server
import SpatialWorkload.Proofs.Scalar.Order

/-!
# One session alone

An insert that nobody interferes with goes in with both halves or leaves everything as it was,
also where the halves disagree beforehand.
-/

namespace SpatialWorkload.GeoSet

namespace Exchange

variable {α β γ σ : Type}

theorem run_bind (serve : (request : Request α) → σ → Except StoreError request.Reply × σ)
    (first : Exchange α β) (next : β → Exchange α γ) (server : σ) :
    (first.bind next).run serve server =
      match first.run serve server with
      | (.ok value, after) => (next value).run serve after
      | (.error error, after) => (.error error, after) := by
  induction first generalizing server with
  | done result => cases result <;> rfl
  | ask request go ih => exact ih _ _

end Exchange

namespace Session

def placeOf (position : Position Float) : Place :=
  ⟨position.longitude, position.latitude⟩

def stampOf (position : Position Float) : String :=
  Timestamp.write Timestamp.recordLayout position.timestamp

/-- How an insert ends that added so many places and times. -/
def verdict (key : String) (added stamped : Int) : Except StoreError Unit :=
  if added = 1 ∧ stamped = 1 then .ok ()
  else .error (.unexpectedState
    s!"insert of {key} added {added} locations and {stamped} timestamps")

def settle (keys : Keys) (key : String) (added stamped : Int) : Exchange Float Unit :=
  if added = stamped then .done (verdict key added stamped)
  else (Exchange.send (.withdraw (if added = 1 then .location else .time) keys key)).bind
    fun _ => .done (verdict key added stamped)

theorem checkIndexable_of_isOnMap {position : Position Float}
    (onMap : (placeOf position).IsOnMap) (key : String) : checkIndexable key position = .ok () := by
  refine if_neg ?_
  rintro (north | east)
  · exact Double.not_lt_of_le onMap.1 north
  · exact Double.not_lt_of_le onMap.2 east

/-- An insert that is let through is one transaction and what follows from its counts. -/
theorem insert_of_checked {table key : String} {keys : Keys} {position : Position Float}
    (named : Keys.ofTable table = .ok keys) (passed : checkIndexable key position = .ok ()) :
    insert table key position =
      (Exchange.send (.add keys position.longitude position.latitude key (stampOf position))).bind
        fun (counts : Int × Int) => settle keys key counts.1 counts.2 := by
  unfold insert
  rw [named, passed]
  refine congrArg (Exchange.ask _) (funext fun reply => ?_)
  cases reply with
  | error error => rfl
  | ok counts =>
      obtain ⟨added, stamped⟩ := counts
      change (if added ≠ stamped then _ else _) = settle keys key added stamped
      unfold settle verdict
      by_cases same : added = stamped
      · rw [if_neg (not_not.mpr same), if_pos same]
        split <;> rfl
      · rw [if_pos same, if_neg same]
        refine congrArg (Exchange.bind _) (funext fun _ => ?_)
        split <;> rfl

theorem insert_eq {table key : String} {keys : Keys} {position : Position Float}
    (named : Keys.ofTable table = .ok keys) (onMap : (placeOf position).IsOnMap) :
    insert table key position =
      (Exchange.send (.add keys position.longitude position.latitude key (stampOf position))).bind
        fun (counts : Int × Int) => settle keys key counts.1 counts.2 :=
  insert_of_checked named (checkIndexable_of_isOnMap onMap key)

end Session

namespace Server

/-- A server that answers one session, where a withdrawal may fail. -/
def hold (finder : Finder) (undo : Delivery) (request : Request Float) (server : Server) :
    Except StoreError request.Reply × Server :=
  server.deliver finder (if request.isWithdrawal then undo else .answered) request

section Alone

variable {table key : String} {keys : Keys} {position : Position Float} (finder : Finder)
  (undo : Delivery) {server : Server}

theorem addPlace_eq (onMap : (Session.placeOf position).IsOnMap) :
    server.addPlace keys key (Session.placeOf position) =
      if server.hasPlace keys key then (.ok 0, server)
      else (.ok 1, server.setPlace keys key (some (Session.placeOf position))) :=
  if_pos onMap

/-- What the server makes of the transaction of an insert. -/
theorem run_send_add (keys : Keys) (key : String) (position : Position Float) (server : Server) :
    (Exchange.send (.add keys position.longitude position.latitude key
      (Session.stampOf position))).run (hold finder undo) server =
        ((server.addPlace keys key (Session.placeOf position)).1.map fun added =>
          (added, ((server.addPlace keys key (Session.placeOf position)).2.addTime keys key
            (Session.stampOf position)).1),
        ((server.addPlace keys key (Session.placeOf position)).2.addTime keys key
            (Session.stampOf position)).2) :=
  rfl

/-- What the transaction of an insert does, and how the insert goes on. -/
theorem run_insert (named : Keys.ofTable table = .ok keys)
    (onMap : (Session.placeOf position).IsOnMap) :
    (Session.insert table key position).run (hold finder undo) server =
      let placed := if server.hasPlace keys key then (0, server)
        else (1, server.setPlace keys key (some (Session.placeOf position)))
      let timed := placed.2.addTime keys key (Session.stampOf position)
      (Session.settle keys key placed.1 timed.1).run (hold finder undo) timed.2 := by
  rw [Session.insert_eq named onMap]
  refine (Exchange.run_bind _ _ _ _).trans ?_
  rw [run_send_add, addPlace_eq onMap]
  cases server.hasPlace keys key <;> rfl

/-- Where the member is new, both halves go in. -/
theorem run_insert_new (named : Keys.ofTable table = .ok keys)
    (onMap : (Session.placeOf position).IsOnMap) (noPlace : server.hasPlace keys key = false)
    (noTime : server.hasTime keys key = false) :
    (Session.insert table key position).run (hold finder undo) server =
      (.ok (), (server.setPlace keys key (some (Session.placeOf position))).setTime keys key
        (some (Session.stampOf position))) := by
  rw [run_insert finder undo named onMap, noPlace]
  simp [addTime, hasTime_setPlace, noTime, Session.settle, Session.verdict, Exchange.run]

/-- Where both halves are there, nothing goes in and nothing is sent any more. -/
theorem run_insert_present (named : Keys.ofTable table = .ok keys)
    (onMap : (Session.placeOf position).IsOnMap) (place : server.hasPlace keys key = true)
    (time : server.hasTime keys key = true) :
    (Session.insert table key position).run (hold finder undo) server =
      (Session.verdict key 0 0, server) := by
  rw [run_insert finder undo named onMap, place]
  simp [addTime, time, Session.settle, Exchange.run]

/-- Where only the time is there, the place goes in and is withdrawn. -/
theorem run_insert_timed (named : Keys.ofTable table = .ok keys)
    (onMap : (Session.placeOf position).IsOnMap) (noPlace : server.hasPlace keys key = false)
    (time : server.hasTime keys key = true) :
    (Session.insert table key position).run (hold finder undo) server =
      match undo with
      | .answered => (Session.verdict key 1 0, server)
      | .unanswered reason => (.error (.backend reason), server)
      | .lost reason => (.error (.backend reason),
          server.setPlace keys key (some (Session.placeOf position))) := by
  rw [run_insert finder undo named onMap, noPlace]
  have back := server.setPlace_setPlace keys key noPlace (some (Session.placeOf position))
  cases undo <;>
    simp [addTime, hasTime_setPlace, time, Session.settle, Exchange.run_bind, Exchange.send,
      Exchange.run, hold, deliver, serve, Request.isWithdrawal, back]

/-- Where only the place is there, the time goes in and is withdrawn. -/
theorem run_insert_placed (named : Keys.ofTable table = .ok keys)
    (onMap : (Session.placeOf position).IsOnMap) (place : server.hasPlace keys key = true)
    (noTime : server.hasTime keys key = false) :
    (Session.insert table key position).run (hold finder undo) server =
      match undo with
      | .answered => (Session.verdict key 0 1, server)
      | .unanswered reason => (.error (.backend reason), server)
      | .lost reason => (.error (.backend reason),
          server.setTime keys key (some (Session.stampOf position))) := by
  rw [run_insert finder undo named onMap, place]
  have back := server.setTime_setTime keys key noTime (some (Session.stampOf position))
  cases undo <;>
    simp [addTime, noTime, Session.settle, Exchange.run_bind, Exchange.send,
      Exchange.run, hold, deliver, serve, Request.isWithdrawal, back]

end Alone

end Server

namespace Session

/-- What comes of an insert that nobody interferes with. -/
structure IsWhole (keys : Keys) (key : String) (undo : Delivery) (server : Server)
    (outcome : Except StoreError Unit × Server) : Prop where
  ok_iff : outcome.1 = .ok () ↔
    server.hasPlace keys key = false ∧ server.hasTime keys key = false
  both : outcome.1 = .ok () →
    outcome.2.hasPlace keys key = true ∧ outcome.2.hasTime keys key = true
  neither : outcome.1 ≠ .ok () →
    undo = .answered ∨ server.hasPlace keys key = server.hasTime keys key →
      (∃ reason, outcome.1 = .error (.unexpectedState reason)) ∧ outcome.2 = server

theorem verdict_of_ne (key : String) {added stamped : Int} (missed : ¬(added = 1 ∧ stamped = 1)) :
    ∃ reason, verdict key added stamped = .error (.unexpectedState reason) :=
  ⟨_, if_neg missed⟩

theorem verdict_ne_ok (key : String) {added stamped : Int} (missed : ¬(added = 1 ∧ stamped = 1)) :
    verdict key added stamped ≠ .ok () := by
  obtain ⟨reason, unexpected⟩ := verdict_of_ne key missed
  intro ended
  cases unexpected.symm.trans ended

/-- Where one half is there and the other goes in, all depends on the withdrawal. -/
theorem isWhole_of_half {keys : Keys} {key : String} {undo : Delivery} {server after : Server}
    {added stamped : Int} (half : server.hasPlace keys key ≠ server.hasTime keys key)
    (missed : ¬(added = 1 ∧ stamped = 1)) :
    IsWhole keys key undo server (match undo with
      | .answered => (verdict key added stamped, server)
      | .unanswered reason => (.error (.backend reason), server)
      | .lost reason => (.error (.backend reason), after)) := by
  have some : ¬(server.hasPlace keys key = false ∧ server.hasTime keys key = false) :=
    fun absent => half (absent.1.trans absent.2.symm)
  obtain ⟨reason, unexpected⟩ := verdict_of_ne key missed
  cases undo with
  | answered =>
      have refused := verdict_ne_ok key missed
      exact ⟨iff_of_false refused some, fun ended => absurd ended refused,
        fun _ _ => ⟨⟨reason, unexpected⟩, rfl⟩⟩
  | unanswered | lost =>
      refine ⟨iff_of_false nofun some, nofun, ?_⟩
      rintro - (answered | same)
      · cases answered
      · exact absurd same half

theorem isWhole_insert {table : String} {keys : Keys} {position : Position Float}
    (named : Keys.ofTable table = .ok keys) (onMap : (placeOf position).IsOnMap)
    (finder : Finder) (undo : Delivery) (key : String) (server : Server) :
    IsWhole keys key undo server
      ((insert table key position).run (Server.hold finder undo) server) := by
  cases place : server.hasPlace keys key with
  | false =>
      cases time : server.hasTime keys key with
      | false =>
          rw [Server.run_insert_new finder undo named onMap place time]
          refine ⟨iff_of_true rfl ⟨place, time⟩, fun _ => ⟨?_, Server.hasTime_setTime _ _ _ _⟩,
            fun failed => absurd rfl failed⟩
          exact Server.hasPlace_setPlace _ _ _ _
      | true =>
          rw [Server.run_insert_timed finder undo named onMap place time]
          exact isWhole_of_half (by rw [place, time]; exact Bool.false_ne_true) (by decide)
  | true =>
      cases time : server.hasTime keys key with
      | false =>
          rw [Server.run_insert_placed finder undo named onMap place time]
          exact isWhole_of_half (by rw [place, time]; exact Bool.noConfusion) (by decide)
      | true =>
          rw [Server.run_insert_present finder undo named onMap place time]
          have missed : ¬((0 : Int) = 1 ∧ (0 : Int) = 1) := by decide
          obtain ⟨reason, unexpected⟩ := verdict_of_ne key missed
          have refused := verdict_ne_ok key missed
          refine ⟨iff_of_false refused fun absent => ?_, fun ended => absurd ended refused,
            fun _ _ => ⟨⟨reason, unexpected⟩, rfl⟩⟩
          cases place.symm.trans absent.1

end Session

end SpatialWorkload.GeoSet

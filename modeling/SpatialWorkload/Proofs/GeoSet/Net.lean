import SpatialWorkload.Proofs.GeoSet.Conversation
import SpatialWorkload.Proofs.Place

/-!
# Many sessions with one server

Any number of sessions take turns in sending their requests to one server, and each request
or its answer may be lost.  The two halves of every table stay in step, so that nothing ever
has to be withdrawn, no table gets in the way of another, and a scan finds the times of what
it found unless a reset came between.
-/

namespace SpatialWorkload.GeoSet

namespace Server

/-- Every member of every table has both halves or neither. -/
def IsInStep (server : Server) : Prop :=
  ∀ table keys, Keys.ofTable table = .ok keys →
    ∀ member, server.hasPlace keys member = server.hasTime keys member

variable {finder : Finder} {server : Server} {table : String} {request : Request Float}

theorem hasPlace_setPlace_of_ne {keys : Keys} {member other : String} (differs : other ≠ member)
    (place : Option Place) :
    (server.setPlace keys member place).hasPlace keys other = server.hasPlace keys other := by
  simp [hasPlace, setPlace, Function.update_of_ne differs]

theorem hasTime_setTime_of_ne {keys : Keys} {member other : String} (differs : other ≠ member)
    (time : Option String) :
    (server.setTime keys member time).hasTime keys other = server.hasTime keys other := by
  simp [hasTime, setTime, Function.update_of_ne differs]

/-- In step, a transaction adds both halves or neither. -/
theorem serve_add (finder : Finder) {keys : Keys} {place : Place} {key : String}
    (onMap : place.IsOnMap) (same : server.hasPlace keys key = server.hasTime keys key)
    (stamp : String) :
    serve finder (.add keys place.longitude place.latitude key stamp) server =
      if server.hasTime keys key then (.ok ((0 : Int), (0 : Int)), server)
      else (.ok ((1 : Int), (1 : Int)),
        (server.setPlace keys key (some place)).setTime keys key (some stamp)) := by
  cases there : server.hasTime keys key with
  | true =>
      rw [there] at same
      simp [serve, addPlace, onMap, same, addTime, there, Except.map]
  | false =>
      rw [there] at same
      simp [serve, addPlace, onMap, same, addTime, hasTime_setPlace, there, Except.map]

theorem halves_add (finder : Finder) {keys : Keys} {place : Place} (onMap : place.IsOnMap)
    (same : ∀ member, server.hasPlace keys member = server.hasTime keys member)
    (key stamp member : String) :
    let after := (serve finder (.add keys place.longitude place.latitude key stamp) server).2
    after.hasPlace keys member = after.hasTime keys member ∧
      (server.hasTime keys member = true → after.hasTime keys member = true) := by
  dsimp only
  rw [serve_add finder onMap (same key)]
  split
  · exact ⟨same member, id⟩
  · by_cases isKey : member = key
    · subst isKey
      rw [hasTime_setTime, hasPlace_setTime, hasPlace_setPlace]
      exact ⟨rfl, fun _ => rfl⟩
    · rw [hasTime_setTime_of_ne isKey, hasPlace_setTime, hasPlace_setPlace_of_ne isKey,
        hasTime_setPlace]
      exact ⟨same member, id⟩

/-- What the halves have of a member after a request that withdraws nothing. -/
theorem halves_serve (finder : Finder) (plain : request.IsPlain table)
    (inStep : server.IsInStep) (member : String) :
    let after := (serve finder request server).2
    after.hasPlace request.keys member = after.hasTime request.keys member ∧
      (request ≠ .delete request.keys → server.hasTime request.keys member = true →
        after.hasTime request.keys member = true) := by
  have same := inStep table request.keys plain.own
  cases request with
  | delete keys =>
      refine ⟨?_, fun differs => absurd rfl differs⟩
      simp [serve, delete, hasPlace, hasTime, Request.keys]
  | add keys longitude latitude key stamp =>
      obtain ⟨agree, stays⟩ := halves_add finder plain.onMap same key stamp member
      exact ⟨agree, fun _ => stays⟩
  | withdraw => cases plain.noWithdrawal
  | search | stamps => exact ⟨same member, fun _ => id⟩

theorem isEven_serve (finder : Finder) (plain : request.IsPlain table)
    (inStep : server.IsInStep) : request.IsEven (serve finder request server).1 := by
  cases request with
  | add keys longitude latitude key stamp =>
      have added := serve_add finder plain.onMap (inStep table keys plain.own key) stamp
      change Request.IsEven _ (serve finder (.add keys longitude latitude key stamp) server).1
      rw [added]
      split <;> rfl
  | _ => trivial

/-- Two tables are one, or their keys are apart. -/
theorem keys_cases {other : String} {keys otherKeys : Keys}
    (named : Keys.ofTable table = .ok keys) (otherNamed : Keys.ofTable other = .ok otherKeys) :
    keys = otherKeys ∨ keys.AreApart otherKeys := by
  by_cases same : table = other
  · subst same
    rw [named] at otherNamed
    exact Or.inl (Except.ok.inj otherNamed)
  · exact Or.inr (Keys.areApart_of_ne named otherNamed same)

theorem AgreesAt.hasPlace {after : Server} {keys : Keys} (agrees : server.AgreesAt after keys)
    (member : String) : after.hasPlace keys member = server.hasPlace keys member := by
  rw [Server.hasPlace, agrees.places, Server.hasPlace]

theorem AgreesAt.hasTime {after : Server} {keys : Keys} (agrees : server.AgreesAt after keys)
    (member : String) : after.hasTime keys member = server.hasTime keys member := by
  rw [Server.hasTime, agrees.times, Server.hasTime]

/-- However a request is delivered, the halves of every table stay in step. -/
theorem IsInStep.deliver (inStep : server.IsInStep) (finder : Finder) (delivery : Delivery)
    (plain : request.IsPlain table) : (server.deliver finder delivery request).2.IsInStep := by
  have served : (serve finder request server).2.IsInStep := by
    intro other keys named member
    rcases keys_cases plain.own named with same | apart
    · rw [← same]
      exact (halves_serve finder plain inStep member).1
    · have agrees := agreesAt_serve finder request server apart
      rw [agrees.hasPlace, agrees.hasTime]
      exact inStep other keys named member
  cases delivery with
  | answered | unanswered => exact served
  | lost => exact inStep

theorem isEven_deliver (finder : Finder) (delivery : Delivery) (plain : request.IsPlain table)
    (inStep : server.IsInStep) : request.IsEven (server.deliver finder delivery request).1 := by
  cases delivery with
  | answered => exact isEven_serve finder plain inStep
  | unanswered | lost => cases request <;> trivial

/-- The time of a member goes with a reset of its table only. -/
theorem hasTime_deliver (finder : Finder) (delivery : Delivery) (plain : request.IsPlain table)
    (inStep : server.IsInStep) {other : String} {keys : Keys}
    (named : Keys.ofTable other = .ok keys) (noReset : request ≠ .delete keys) {member : String}
    (there : server.hasTime keys member = true) :
    (server.deliver finder delivery request).2.hasTime keys member = true := by
  have served : (serve finder request server).2.hasTime keys member = true := by
    rcases keys_cases plain.own named with same | apart
    · subst same
      exact (halves_serve finder plain inStep member).2 noReset there
    · rw [(agreesAt_serve finder request server apart).hasTime]
      exact there
  cases delivery with
  | answered | unanswered => exact served
  | lost => exact there

end Server

inductive Line where
  | free
  | busy (errand : Errand) (rest : Exchange Float (List (Position Float)))

def Line.isFree : Line → Bool
  | free => true
  | busy _ (.done _) => true
  | busy _ (.ask ..) => false

structure Net where
  server : Server
  lines : List Line
  /-- What was sent by whom, the newest first. -/
  sent : List (Nat × Request Float)

namespace Net

inductive Move where
  | start (id : Nat) (errand : Errand)
  | send (id : Nat) (delivery : Delivery)

def Move.IsOnMap : Move → Prop
  | start _ errand => errand.IsOnMap
  | send .. => True

def opening (server : Server) (crew : Nat) : Net :=
  ⟨server, List.replicate crew .free, []⟩

def step (finder : Finder) (net : Net) : Move → Option Net
  | .start id errand =>
      match net.lines[id]? with
      | some line =>
          if line.isFree then
            some { net with lines := net.lines.set id (.busy errand errand.exchange) }
          else none
      | none => none
  | .send id delivery =>
      match net.lines[id]? with
      | some (.busy errand (.ask request next)) =>
          let (reply, server) := net.server.deliver finder delivery request
          some ⟨server, net.lines.set id (.busy errand (next reply)), (id, request) :: net.sent⟩
      | _ => none

def run (finder : Finder) : List Move → Net → Net
  | [], net => net
  | move :: moves, net => run finder moves ((net.step finder move).getD net)

inductive Turn (finder : Finder) (net : Net) : Move → Net → Prop where
  | starts {id : Nat} {errand : Errand} {line : Line} (there : net.lines[id]? = some line)
      (free : line.isFree = true) :
      Turn finder net (.start id errand)
        { net with lines := net.lines.set id (.busy errand errand.exchange) }
  | sends {id : Nat} {delivery : Delivery} {errand : Errand} {request : Request Float}
      {next : Except StoreError request.Reply → Exchange Float (List (Position Float))}
      (busy : net.lines[id]? = some (.busy errand (.ask request next))) :
      Turn finder net (.send id delivery)
        ⟨(net.server.deliver finder delivery request).2,
          net.lines.set id
            (.busy errand (next (net.server.deliver finder delivery request).1)),
          (id, request) :: net.sent⟩

theorem step_turn {finder : Finder} {net next : Net} {move : Move}
    (made : net.step finder move = some next) : Turn finder net move next := by
  cases move with
  | start id errand =>
      simp only [step] at made
      split at made
      · rename_i line there
        split at made
        · rename_i free
          cases made
          exact .starts there free
        · cases made
      · cases made
  | send id delivery =>
      simp only [step] at made
      split at made
      · rename_i errand request next busy
        cases made
        exact .sends busy
      · cases made

end Net

/-- Between the two requests of one scan of a session there was a reset. -/
inductive Disturbed (id : Nat) (keys : Keys) (sent : List (Nat × Request Float)) : Prop where
  | intro (later middle : List (Nat × Request Float)) {earlier : List (Nat × Request Float)}
      {longitude latitude km : Float} {count : Option Nat} {members : List String} {other : Nat}
      (history : sent = later ++ (id, .stamps keys members) ::
        (middle ++ (id, .search keys longitude latitude km count) :: earlier))
      (others : ∀ entry ∈ middle, entry.1 ≠ id) (reset : (other, .delete keys) ∈ middle)

theorem Disturbed.cons {id : Nat} {keys : Keys} {sent : List (Nat × Request Float)}
    (disturbed : Disturbed id keys sent) (entry : Nat × Request Float) :
    Disturbed id keys (entry :: sent) := by
  cases disturbed with
  | intro later middle history others reset =>
      exact .intro (entry :: later) middle (congrArg (List.cons entry) history) others reset

/-- How far a scan has come, and what it may rely on. -/
inductive Scanning (id : Nat) (keys : Keys) (server : Server) (sent : List (Nat × Request Float))
    (rest : Exchange Float (List (Position Float))) : Prop where
  | begins {longitude latitude km : Float} {count : Option Nat}
      {choose : List (Hit Float) → List (Hit Float)}
      {keep : List (Position Float) → List (Position Float)}
      (chosen : ∀ hits, choose hits ⊆ hits)
      (is : rest = (Exchange.send (.search keys longitude latitude km count)).bind
        fun hits => Session.finish keys (choose hits) keep)
  | found {hits : List (Hit Float)} {keep : List (Position Float) → List (Position Float)}
      (later : List (Nat × Request Float)) {earlier : List (Nat × Request Float)}
      {longitude latitude km : Float} {count : Option Nat} (some : ¬hits.isEmpty = true)
      (is : rest = Session.finish keys hits keep)
      (history : sent = later ++ (id, .search keys longitude latitude km count) :: earlier)
      (others : ∀ entry ∈ later, entry.1 ≠ id)
      (known : (∃ other, (other, .delete keys) ∈ later) ∨
        ∀ hit ∈ hits, server.hasTime keys hit.member = true)
  | ends {result : Except StoreError (List (Position Float))} (is : rest = .done result)
      (explained : Session.LacksTime keys result → Disturbed id keys sent)

namespace Scanning

variable {id : Nat} {table : String} {keys : Keys} {server : Server}
  {sent : List (Nat × Request Float)} {rest : Exchange Float (List (Position Float))}

theorem ofScan (named : Keys.ofTable table = .ok keys) (query : Query Float) :
    Scanning id keys server sent (Session.scan table query) := by
  rcases Session.scan_cases named query with ⟨found, ended⟩ |
    ⟨_, _, _, _, choose, keep, chosen, searches⟩
  · exact .ends ended fun lacks => absurd lacks (Session.not_lacksTime_ok keys found)
  · exact .begins chosen searches

/-- What another session does to a scan. -/
theorem elsewhere (scanning : Scanning id keys server sent rest) (finder : Finder)
    (delivery : Delivery) (inStep : server.IsInStep) (named : Keys.ofTable table = .ok keys)
    {someone : Nat} (differs : someone ≠ id) {other : String} {request : Request Float}
    (plain : request.IsPlain other) :
    Scanning id keys (server.deliver finder delivery request).2 ((someone, request) :: sent)
      rest := by
  cases scanning with
  | begins chosen is => exact .begins chosen is
  | found later some is history others known =>
      refine .found ((someone, request) :: later) some is
        (congrArg (List.cons (someone, request)) history) ?_ ?_
      · exact List.forall_mem_cons.mpr ⟨differs, others⟩
      · rcases known with ⟨resetter, reset⟩ | times
        · exact Or.inl ⟨resetter, List.mem_cons_of_mem _ reset⟩
        · by_cases resets : request = .delete keys
          · subst resets
            exact Or.inl ⟨someone, List.mem_cons_self⟩
          · exact Or.inr fun hit member =>
              Server.hasTime_deliver finder delivery plain inStep named resets (times hit member)
  | ends is explained => exact .ends is fun lacks => (explained lacks).cons _

/-- The scan's own next step. -/
theorem own {request : Request Float}
    {next : Except StoreError request.Reply → Exchange Float (List (Position Float))}
    (scanning : Scanning id keys server sent (.ask request next)) (finder : Finder)
    (delivery : Delivery) (inStep : server.IsInStep) (named : Keys.ofTable table = .ok keys) :
    Scanning id keys (server.deliver finder delivery request).2 ((id, request) :: sent)
      (next (server.deliver finder delivery request).1) := by
  have failed {reason : String} {history : List (Nat × Request Float)} {after : Server} :
      Scanning id keys after history (.done (.error (.backend reason))) :=
    .ends rfl fun lacks => absurd lacks (Session.not_lacksTime_backend keys reason)
  cases scanning with
  | begins chosen is =>
      rename_i longitude latitude km count choose keep
      cases is
      cases delivery with
      | unanswered | lost => exact failed
      | answered =>
          -- Whatever is found has a place, and so it has a time.
          change Scanning id keys server _ (Session.finish keys (choose (finder.find
            (server.sets keys.location) ⟨longitude, latitude⟩ km count)) keep)
          by_cases empty : (choose (finder.find (server.sets keys.location)
              ⟨longitude, latitude⟩ km count)).isEmpty = true
          · rw [Session.finish_of_isEmpty empty]
            exact .ends rfl fun lacks => absurd lacks (Session.not_lacksTime_ok keys _)
          · refine .found [] empty rfl rfl (List.forall_mem_nil _)
              (Or.inr fun hit member => ?_)
            have place := finder.sound _ _ _ _ hit (chosen _ member)
            rw [← inStep table keys named]
            exact place
  | found later some is history others known =>
      rename_i hits keep earlier longitude latitude km count
      rw [Session.finish_of_not_isEmpty some] at is
      cases is
      cases delivery with
      | unanswered | lost => exact failed
      | answered =>
          refine .ends rfl fun lacks => ?_
          rcases known with ⟨resetter, reset⟩ | times
          · exact .intro [] later (congrArg (List.cons _) history) others reset
          · exact absurd lacks (Session.not_lacksTime_answer named _ times keep)
  | ends is explained => cases is

end Scanning

namespace Net

variable {finder : Finder} {net next : Net} {move : Move}

structure IsSound (net : Net) : Prop where
  inStep : net.server.IsInStep
  plain : ∀ (id : Nat) errand rest, net.lines[id]? = some (Line.busy errand rest) →
    rest.IsPlain errand.table
  quiet : ∀ entry ∈ net.sent, entry.2.isWithdrawal = false
  scanning : ∀ (id : Nat) table query rest keys,
    net.lines[id]? = some (Line.busy (.scan table query) rest) →
      Keys.ofTable table = .ok keys → Scanning id keys net.server net.sent rest

theorem IsSound.ofOpening {server : Server} (inStep : server.IsInStep) (crew : Nat) :
    (opening server crew).IsSound := by
  have nobody {id : Nat} {errand : Errand} {rest : Exchange Float (List (Position Float))} :
      (opening server crew).lines[id]? ≠ some (.busy errand rest) := by
    intro busy
    cases List.eq_of_mem_replicate (List.mem_of_getElem? busy)
  exact ⟨inStep, fun _ _ _ busy => absurd busy nobody, List.forall_mem_nil _,
    fun _ _ _ _ _ busy => absurd busy nobody⟩

theorem IsSound.turn (sound : net.IsSound) (onMap : move.IsOnMap)
    (turn : Turn finder net move next) : next.IsSound := by
  cases turn with
  | starts there free =>
      rename_i id errand line
      refine ⟨sound.inStep, fun other otherErrand rest busy => ?_, sound.quiet,
        fun other table query rest keys busy named => ?_⟩
      · rcases getElem?_set_cases busy with ⟨-, new⟩ | ⟨-, before⟩
        · cases new
          exact Errand.isPlain_exchange onMap
        · exact sound.plain other otherErrand rest before
      · rcases getElem?_set_cases busy with ⟨-, new⟩ | ⟨-, before⟩
        · cases new
          exact .ofScan named query
        · exact sound.scanning other table query rest keys before named
  | sends busy =>
      rename_i id delivery errand request continue_
      obtain ⟨plain, goesOn⟩ : request.IsPlain errand.table ∧ ∀ reply, request.IsEven reply →
          (continue_ reply).IsPlain errand.table := by
        cases sound.plain id errand _ busy with
        | ask plain goesOn => exact ⟨plain, goesOn⟩
      refine ⟨sound.inStep.deliver finder delivery plain, fun other otherErrand rest there => ?_,
        List.forall_mem_cons.mpr ⟨plain.noWithdrawal, sound.quiet⟩,
        fun other table query rest keys there named => ?_⟩
      · rcases getElem?_set_cases there with ⟨-, new⟩ | ⟨-, before⟩
        · cases new
          exact goesOn _ (Server.isEven_deliver finder delivery plain sound.inStep)
        · exact sound.plain other otherErrand rest before
      · rcases getElem?_set_cases there with ⟨rfl, new⟩ | ⟨differs, before⟩
        · cases new
          exact (sound.scanning other table query _ keys busy named).own finder delivery
            sound.inStep named
        · exact (sound.scanning other table query rest keys before named).elsewhere finder
            delivery sound.inStep named (Ne.symm differs) plain

theorem IsSound.run (sound : net.IsSound) {moves : List Move}
    (onMap : ∀ move ∈ moves, move.IsOnMap) : (run finder moves net).IsSound := by
  induction moves generalizing net with
  | nil => exact sound
  | cons move moves ih =>
      obtain ⟨first, later⟩ := List.forall_mem_cons.mp onMap
      refine ih ?_ later
      cases made : net.step finder move with
      | none => exact sound
      | some next => exact sound.turn first (step_turn made)

end Net

def Finder.ofMember (name : String) : Finder where
  find members _ _ _ :=
    match members name with
    | some place => [⟨name, place.longitude, place.latitude⟩]
    | none => []
  sound members centre km count hit member := by
    split at member
    · rename_i place there
      rw [List.mem_singleton.mp member, there]
      rfl
    · cases member

end SpatialWorkload.GeoSet

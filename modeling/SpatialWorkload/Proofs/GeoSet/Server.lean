import Mathlib.Logic.Function.Basic
import SpatialWorkload.GeoSet.Session

/-!
# A key server

What a server makes of the requests of a session.  Geo sets and hashes stand under the names
of their keys; a transaction carries out its commands one after the other and takes nothing
back where one of them fails.  A request or its answer can be lost on the way.
-/

namespace SpatialWorkload.GeoSet

structure Place where
  longitude : Float
  latitude : Float

/-- The server's map ends where a session stops to ask for places. -/
def Place.IsOnMap (place : Place) : Prop :=
  place.latitude.abs ≤ steepestIndexed ∧ place.longitude.abs ≤ 180

instance (place : Place) : Decidable place.IsOnMap :=
  inferInstanceAs (Decidable (_ ∧ _))

/-- All geo sets and hashes, by the names of their keys and by member. -/
structure Server where
  sets : String → String → Option Place
  hashes : String → String → Option String

/-- How a server finds members of a geo set about a place; it finds no others. -/
structure Finder where
  find (members : String → Option Place) (centre : Place) (km : Float) (count : Option Nat) :
    List (Hit Float)
  sound (members : String → Option Place) (centre : Place) (km : Float) (count : Option Nat) :
    ∀ hit ∈ find members centre km count, (members hit.member).isSome = true

namespace Request

def keys {α : Type} : Request α → Keys
  | delete keys => keys
  | add keys .. => keys
  | withdraw _ keys _ => keys
  | search keys .. => keys
  | stamps keys _ => keys

def isWithdrawal {α : Type} : Request α → Bool
  | withdraw .. => true
  | _ => false

end Request

namespace Server

def empty : Server := ⟨fun _ _ => none, fun _ _ => none⟩

def hasPlace (server : Server) (keys : Keys) (member : String) : Bool :=
  (server.sets keys.location member).isSome

def hasTime (server : Server) (keys : Keys) (member : String) : Bool :=
  (server.hashes keys.time member).isSome

def setPlace (server : Server) (keys : Keys) (member : String) (place : Option Place) : Server :=
  { server with
    sets := Function.update server.sets keys.location
      (Function.update (server.sets keys.location) member place) }

def setTime (server : Server) (keys : Keys) (member : String) (time : Option String) : Server :=
  { server with
    hashes := Function.update server.hashes keys.time
      (Function.update (server.hashes keys.time) member time) }

def delete (server : Server) (keys : Keys) : Server where
  sets name := if name = keys.location ∨ name = keys.time then fun _ => none else server.sets name
  hashes name :=
    if name = keys.location ∨ name = keys.time then fun _ => none else server.hashes name

def addPlace (server : Server) (keys : Keys) (member : String) (place : Place) :
    Except StoreError Int × Server :=
  if place.IsOnMap then
    if server.hasPlace keys member then (.ok 0, server)
    else (.ok 1, server.setPlace keys member (some place))
  else (.error (.backend "ERR invalid longitude,latitude pair"), server)

def addTime (server : Server) (keys : Keys) (member time : String) : Int × Server :=
  if server.hasTime keys member then (0, server)
  else (1, server.setTime keys member (some time))

def serve (finder : Finder) :
    (request : Request Float) → Server → Except StoreError request.Reply × Server
  | .delete keys, server => (.ok (), server.delete keys)
  | .add keys longitude latitude member stamp, server =>
      let (added, placed) := server.addPlace keys member ⟨longitude, latitude⟩
      let (stamped, server) := placed.addTime keys member stamp
      (added.map fun added => (added, stamped), server)
  | .withdraw .location keys member, server =>
      (.ok ((server.hasPlace keys member).toNat : Int), server.setPlace keys member none)
  | .withdraw .time keys member, server =>
      (.ok ((server.hasTime keys member).toNat : Int), server.setTime keys member none)
  | .search keys longitude latitude km count, server =>
      (.ok (finder.find (server.sets keys.location) ⟨longitude, latitude⟩ km count), server)
  | .stamps keys members, server => (.ok (members.map (server.hashes keys.time)), server)

end Server

/-- What becomes of a request on its way. -/
inductive Delivery where
  | answered
  /-- The request is carried out, and its answer does not come back. -/
  | unanswered (reason : String)
  /-- The request does not reach the server. -/
  | lost (reason : String)

namespace Server

def deliver (finder : Finder) (delivery : Delivery) (request : Request Float) (server : Server) :
    Except StoreError request.Reply × Server :=
  match delivery with
  | .answered => serve finder request server
  | .unanswered reason => (.error (.backend reason), (serve finder request server).2)
  | .lost reason => (.error (.backend reason), server)

section Halves

variable (server : Server) (keys : Keys) (member : String)

theorem hasPlace_setPlace (place : Option Place) :
    (server.setPlace keys member place).hasPlace keys member = place.isSome := by
  simp [hasPlace, setPlace]

theorem hasTime_setTime (time : Option String) :
    (server.setTime keys member time).hasTime keys member = time.isSome := by
  simp [hasTime, setTime]

theorem hasPlace_setTime (other : Keys) (someone : String) (time : Option String) :
    (server.setTime keys member time).hasPlace other someone = server.hasPlace other someone :=
  rfl

theorem hasTime_setPlace (other : Keys) (someone : String) (place : Option Place) :
    (server.setPlace keys member place).hasTime other someone = server.hasTime other someone :=
  rfl

/-- Taking out what was not there before leaves no trace. -/
theorem setPlace_setPlace (absent : server.hasPlace keys member = false) (place : Option Place) :
    (server.setPlace keys member place).setPlace keys member none = server := by
  have nothing : server.sets keys.location member = none := Option.not_isSome_iff_eq_none.mp
    (Bool.eq_false_iff.mp absent)
  simp [setPlace, ← nothing]

theorem setTime_setTime (absent : server.hasTime keys member = false) (time : Option String) :
    (server.setTime keys member time).setTime keys member none = server := by
  have nothing : server.hashes keys.time member = none := Option.not_isSome_iff_eq_none.mp
    (Bool.eq_false_iff.mp absent)
  simp [setTime, ← nothing]

end Halves

end Server

namespace Keys

/-- The names of two tables' keys have nothing in common. -/
structure AreApart (keys other : Keys) : Prop where
  locations : keys.location ≠ other.location
  times : keys.time ≠ other.time
  ahead : keys.location ≠ other.time
  behind : keys.time ≠ other.location

theorem eq_of_ofTable {table : String} {keys : Keys} (named : ofTable table = .ok keys) :
    keys = ⟨table ++ ":location", table ++ ":time"⟩ := by
  unfold ofTable at named
  cases passed : checkTable table with
  | error error =>
      rw [passed] at named
      cases named
  | ok done =>
      rw [passed] at named
      cases named
      rfl

/-- A place and a time never go by one name. -/
theorem location_ne_time (table other : String) : table ++ ":location" ≠ other ++ ":time" := by
  intro same
  have last := congrArg (fun name : String => name.toList.getLast?) same
  simp at last

theorem areApart_of_ne {table other : String} {keys otherKeys : Keys}
    (named : ofTable table = .ok keys) (otherNamed : ofTable other = .ok otherKeys)
    (differs : table ≠ other) : keys.AreApart otherKeys := by
  rw [eq_of_ofTable named, eq_of_ofTable otherNamed]
  have sameTable (suffix : String) : table ++ suffix ≠ other ++ suffix := by
    intro same
    have letters := congrArg String.toList same
    simp only [String.toList_append, List.append_left_inj] at letters
    exact differs (String.toList_injective letters)
  exact ⟨sameTable _, sameTable _, location_ne_time table other,
    (location_ne_time other table).symm⟩

end Keys

namespace Server

structure AgreesAt (server other : Server) (keys : Keys) : Prop where
  places : other.sets keys.location = server.sets keys.location
  times : other.hashes keys.time = server.hashes keys.time
  otherSets : other.sets keys.time = server.sets keys.time
  otherHashes : other.hashes keys.location = server.hashes keys.location

variable {server : Server}

theorem AgreesAt.refl (server : Server) (keys : Keys) : server.AgreesAt server keys :=
  ⟨rfl, rfl, rfl, rfl⟩

theorem agreesAt_delete {keys other : Keys} (apart : keys.AreApart other) :
    server.AgreesAt (server.delete keys) other := by
  have location : ¬(other.location = keys.location ∨ other.location = keys.time) := by
    rintro (same | same)
    · exact apart.locations same.symm
    · exact apart.behind same.symm
  have time : ¬(other.time = keys.location ∨ other.time = keys.time) := by
    rintro (same | same)
    · exact apart.ahead same.symm
    · exact apart.times same.symm
  exact ⟨if_neg location, if_neg time, if_neg time, if_neg location⟩

theorem agreesAt_setPlace {keys other : Keys} (apart : keys.AreApart other) (member : String)
    (place : Option Place) : server.AgreesAt (server.setPlace keys member place) other :=
  ⟨Function.update_of_ne apart.locations.symm _ _, rfl,
    Function.update_of_ne apart.ahead.symm _ _, rfl⟩

theorem agreesAt_setTime {keys other : Keys} (apart : keys.AreApart other) (member : String)
    (time : Option String) : server.AgreesAt (server.setTime keys member time) other :=
  ⟨rfl, Function.update_of_ne apart.times.symm _ _, rfl,
    Function.update_of_ne apart.behind.symm _ _⟩

theorem agreesAt_addPlace {keys other : Keys} (apart : keys.AreApart other) (member : String)
    (place : Place) : server.AgreesAt (server.addPlace keys member place).2 other := by
  unfold addPlace
  split
  · split
    · exact .refl server other
    · exact agreesAt_setPlace apart _ _
  · exact .refl server other

theorem agreesAt_addTime {keys other : Keys} (apart : keys.AreApart other) (member : String)
    (time : String) : server.AgreesAt (server.addTime keys member time).2 other := by
  unfold addTime
  split
  · exact .refl server other
  · exact agreesAt_setTime apart _ _

theorem AgreesAt.trans {first second third : Server} {keys : Keys}
    (before : first.AgreesAt second keys) (after : second.AgreesAt third keys) :
    first.AgreesAt third keys :=
  ⟨after.places.trans before.places, after.times.trans before.times,
    after.otherSets.trans before.otherSets, after.otherHashes.trans before.otherHashes⟩

/-- No request changes what stands under other names than those of its keys. -/
theorem agreesAt_serve (finder : Finder) (request : Request Float) (server : Server)
    {other : Keys} (apart : request.keys.AreApart other) :
    server.AgreesAt (serve finder request server).2 other := by
  cases request with
  | delete keys => exact agreesAt_delete apart
  | add keys longitude latitude member stamp =>
      exact (agreesAt_addPlace apart member _).trans (agreesAt_addTime apart member stamp)
  | withdraw half keys member =>
      cases half with
      | location => exact agreesAt_setPlace apart _ _
      | time => exact agreesAt_setTime apart _ _
  | search | stamps => exact .refl server other

end Server

end SpatialWorkload.GeoSet

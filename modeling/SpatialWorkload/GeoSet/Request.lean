import SpatialWorkload.Store.Basic

/-!
# Requests to a key server

A table is two keys of a server: a geo set of places and a hash of times, both by member.
A conversation with the server is a tree: a request, and for each reply how it goes on.
What other conversations do happens between two requests.
-/

namespace SpatialWorkload.GeoSet

structure Keys where
  location : String
  time : String
  deriving DecidableEq, Repr

def Keys.ofTable (table : String) : Except StoreError Keys :=
  (checkTable table).map fun _ => ⟨s!"{table}:location", s!"{table}:time"⟩

/-- The two halves of a stored position. -/
inductive Half where
  | location
  | time
  deriving DecidableEq, Repr

inductive Request (α : Type) where
  /-- Removes both keys. -/
  | delete (keys : Keys)
  /-- Adds each half of a position unless the member is there, in one transaction. -/
  | add (keys : Keys) (longitude latitude : α) (member stamp : String)
  /-- Removes one half of a position. -/
  | withdraw (half : Half) (keys : Keys) (member : String)
  /-- The members within a radius, nearest first, at most `count` of them. -/
  | search (keys : Keys) (longitude latitude km : α) (count : Option Nat)
  | stamps (keys : Keys) (members : List String)

structure Hit (α : Type) where
  member : String
  longitude : α
  latitude : α

namespace Request

variable {α : Type}

/-- What the server replies: how many members were added or removed, or what was found. -/
def Reply : Request α → Type
  | delete _ => Unit
  | add .. => Int × Int
  | withdraw .. => Int
  | search .. => List (Hit α)
  | stamps .. => List (Option String)

/-- The commands of a request as they are sent, given how numbers are written. -/
def commands (write : α → String) : Request α → List (List String)
  | delete keys => [["DEL", keys.location, keys.time]]
  | add keys longitude latitude member stamp =>
      [["MULTI"], ["GEOADD", keys.location, "NX", write longitude, write latitude, member],
        ["HSETNX", keys.time, member, stamp], ["EXEC"]]
  | withdraw .location keys member => [["ZREM", keys.location, member]]
  | withdraw .time keys member => [["HDEL", keys.time, member]]
  | search keys longitude latitude km count =>
      let bound := match count with
        | some count => ["COUNT", toString count]
        | none => []
      [["GEOSEARCH", keys.location, "FROMLONLAT", write longitude, write latitude,
        "BYRADIUS", write km, "km", "ASC"] ++ bound ++ ["WITHCOORD"]]
  | stamps keys members => [["HMGET", keys.time] ++ members]

end Request

/-- A conversation with a server of numbers `α`, which ends with a `β` or an error. -/
inductive Exchange (α β : Type) where
  | done (result : Except StoreError β)
  | ask (request : Request α) (next : Except StoreError request.Reply → Exchange α β)

namespace Exchange

variable {α β γ : Type}

def bind : Exchange α β → (β → Exchange α γ) → Exchange α γ
  | done (.ok value), next => next value
  | done (.error error), _ => done (.error error)
  | ask request go, next => ask request fun reply => (go reply).bind next

instance : Monad (Exchange α) where
  pure value := done (.ok value)
  bind := bind

def send (request : Request α) : Exchange α request.Reply :=
  ask request done

def run {σ : Type} (serve : (request : Request α) → σ → Except StoreError request.Reply × σ) :
    Exchange α β → σ → Except StoreError β × σ
  | done result, server => (result, server)
  | ask request next, server =>
      let (reply, server) := serve request server
      (next reply).run serve server

end Exchange

end SpatialWorkload.GeoSet

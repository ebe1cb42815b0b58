import SpatialWorkload.Store.Memory

/-!
# Known backends

Five backends have a name; this build carries the one that keeps its tables in memory.
-/

namespace SpatialWorkload

inductive BackendKind where
  | memory
  | postgres
  | mongoDb
  | neo4j
  | redis
  deriving DecidableEq, Repr

namespace BackendKind

def all : List BackendKind := [memory, postgres, mongoDb, neo4j, redis]

def name : BackendKind → String
  | memory => "memory"
  | postgres => "postgres"
  | mongoDb => "mongodb"
  | neo4j => "neo4j"
  | redis => "redis"

def isAvailable : BackendKind → Bool
  | memory => true
  | _ => false

/-- Names are trimmed and their ASCII letters lowered; three backends have further names. -/
def read (text : String) : Except ConfigError BackendKind :=
  match String.ofList ((Text.trim text.toList).map Char.toLower) with
  | "memory" => .ok memory
  | "postgres" => .ok postgres
  | "postgis" => .ok postgres
  | "postgresql" => .ok postgres
  | "mongodb" => .ok mongoDb
  | "mongo" => .ok mongoDb
  | "neo4j" => .ok neo4j
  | "redis" => .ok redis
  | other => .error (.unknownBackend other)

def openStore (kind : BackendKind) : Except ConfigError (Backend (MemoryStore Float)) :=
  if kind.isAvailable then .ok memoryBackend else .error (.backendNotBuilt kind.name)

end BackendKind

def Config.openBackend (config : Config) : Except ConfigError (Backend (MemoryStore Float)) := do
  (← BackendKind.read config.backend).openStore

end SpatialWorkload

import SpatialWorkload.Association

/-!
# Statement texts

The texts of statements by table and name, shared by every session of a store.  A text is
looked up first and built outside any lock; of two sessions that build the same text, the
first to add it wins and both use what is there.
-/

namespace SpatialWorkload

abbrev NamedTexts := List (String × String)

structure StatementCache where
  tables : List (String × NamedTexts)
  deriving DecidableEq, Repr

namespace StatementCache

def empty : StatementCache := ⟨[]⟩

def texts (cache : StatementCache) (table : String) : NamedTexts :=
  (cache.tables.lookup table).getD []

def probe (cache : StatementCache) (table name : String) : Option String :=
  (cache.texts table).lookup name

/-- Adds a text unless there is one, and answers the one that is there afterwards. -/
def addIfAbsent (cache : StatementCache) (table name text : String) : String × StatementCache :=
  match cache.probe table name with
  | some present => (present, cache)
  | none => (text, ⟨Association.set table (cache.texts table ++ [(name, text)]) cache.tables⟩)

/-- The text of a statement; `build` runs only if the text is not there. -/
def getOrBuild (cache : StatementCache) (table name : String) (build : String → String) :
    String × StatementCache :=
  match cache.probe table name with
  | some present => (present, cache)
  | none => cache.addIfAbsent table name (build table)

def invalidate (cache : StatementCache) (table : String) : StatementCache :=
  ⟨cache.tables.filter fun entry => entry.1 != table⟩

def tableCount (cache : StatementCache) : Nat :=
  cache.tables.length

def statementCount (cache : StatementCache) : Nat :=
  cache.tables.foldl (fun count entry => count + entry.2.length) 0

end StatementCache

end SpatialWorkload

import SpatialWorkload.Store.Basic

/-!
# Statement templates

A statement for a server is a fixed text with gaps, and the name of its table fills them
all.  Names that are no plain identifiers fill nothing.
-/

namespace SpatialWorkload

inductive Fragment where
  | text (fixed : String)
  | table
  deriving DecidableEq, Repr

def Fragment.fill (table : String) : Fragment → List Char
  | text fixed => fixed.toList
  | .table => table.toList

abbrev Template := List Fragment

namespace Template

def fill (template : Template) (table : String) : String :=
  String.ofList (template.flatMap (Fragment.fill table))

theorem toList_fill (template : Template) (table : String) :
    (template.fill table).toList = template.flatMap (Fragment.fill table) :=
  String.toList_ofList

/-- The statement for a table, if its name is one that may stand in a statement. -/
def statementFor (template : Template) (table : String) : Except StoreError String :=
  (checkTable table).map fun _ => template.fill table

end Template

def Operation.statementName : Operation → String
  | insert => "insert"
  | scan .knn => "scan_knn"
  | scan .distance => "scan_by_distance"
  | scan .polygon => "scan_by_polygon"

end SpatialWorkload

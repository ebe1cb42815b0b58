import SpatialWorkload.Statement.Template

/-!
# Cypher for labelled nodes

A table is a label, and a position is a node with that label.  Parameters are named; the
statement of a polygon scan asks for the bounds of the polygon and leaves the rest to the
session.
-/

namespace SpatialWorkload.Cypher

def reference : Fragment :=
  .text "point(\x7blatitude: $lat, longitude: $lon\x7d)"

def selection : Fragment :=
  .text ("RETURN n.id AS id, n.latitude AS latitude, n.longitude AS longitude, " ++
    "n.time_of_record AS time_of_record")

/-- The statement of a name; every name that is not known asks for a polygon. -/
def statement : String → Template
  | "insert" =>
      [.text "OPTIONAL MATCH (e:", .table, .text " \x7bid: $id\x7d) WITH e WHERE e IS NULL ",
        .text "CREATE (n:", .table, .text " \x7bid: $id, latitude: $lat, longitude: $lon, ",
        .text "location: ", reference, .text ", time_of_record: $ts\x7d) ",
        .text "RETURN count(n) AS created"]
  | "scan_knn" =>
      [.text "MATCH (n:", .table, .text ") WITH n, point.distance(n.location, ", reference,
        .text ") AS d ORDER BY d ASC LIMIT $k ", selection]
  | "scan_by_distance" =>
      [.text "MATCH (n:", .table, .text ") WHERE point.distance(n.location, ", reference,
        .text ") <= $meters ", selection]
  | _ =>
      [.text "MATCH (n:", .table, .text ") WHERE n.latitude >= $min_lat AND ",
        .text "n.latitude <= $max_lat AND n.longitude >= $min_lon AND n.longitude <= $max_lon ",
        selection]

end SpatialWorkload.Cypher

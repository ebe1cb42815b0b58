import SpatialWorkload.Statement.Template

/-!
# SQL for a spatial extension

The positions of a table stand in a geography column under a spatial index.  Parameters
are numbered; a repeated key inserts no row.
-/

namespace SpatialWorkload.Sql

def resetScript : Template :=
  [.text "CREATE EXTENSION IF NOT EXISTS postgis;\n",
    .text "         DROP TABLE IF EXISTS ", .table, .text ";\n",
    .text "         CREATE TABLE ", .table, .text " (\n",
    .text "             id VARCHAR(255) PRIMARY KEY,\n",
    .text "             time_of_record TIMESTAMP NOT NULL,\n",
    .text "             latitude DOUBLE PRECISION NOT NULL,\n",
    .text "             longitude DOUBLE PRECISION NOT NULL,\n",
    .text "             location geography(Point, 4326) NOT NULL\n",
    .text "         );\n",
    .text "         CREATE INDEX ", .table, .text "_location_idx ON ", .table,
    .text " USING GIST (location);"]

def selection : Template :=
  [.text "SELECT id, latitude, longitude, time_of_record FROM ", .table]

def reference : Fragment :=
  .text "ST_SetSRID(ST_MakePoint($1, $2), 4326)::geography"

def statement : Operation → Template
  | .insert =>
      [.text "INSERT INTO ", .table,
        .text " (id, time_of_record, latitude, longitude, location) VALUES ($1, $2, $3, $4, ",
        .text "ST_SetSRID(ST_MakePoint($4, $3), 4326)::geography) ON CONFLICT (id) DO NOTHING"]
  | .scan .knn =>
      selection ++ [.text " ORDER BY location <-> ", reference, .text " LIMIT $3"]
  | .scan .distance =>
      selection ++ [.text " WHERE ST_DWithin(location, ", reference, .text ", $3, false)"]
  | .scan .polygon =>
      selection ++
        [.text " WHERE ST_Covers(ST_GeomFromText($1, 4326), location::geometry)"]

end SpatialWorkload.Sql

import SpatialWorkload.Json.Records
import SpatialWorkload.Run.Phase

/-!
# Reports

What a command has done, and how it is written.
-/

namespace SpatialWorkload

/-- The outcome of a command: its phases, and the tally of all of them. -/
structure Report where
  backend : String
  table : String
  phases : List PhaseReport
  tally : Tally
  deriving DecidableEq, Repr

namespace Json

def ofPhase (report : PhaseReport) : Json :=
  ofMembers [("phase", ofString report.phase.name), ("threads", ofNat report.threads),
    ("operations", ofNat report.operations), ("succeeded", ofNat report.succeeded),
    ("failed", ofNat report.failed)]

def ofReport (report : Report) : Json :=
  ofMembers [("backend", ofString report.backend), ("table", ofString report.table),
    ("phases", array (report.phases.map ofPhase)), ("stats", ofTally report.tally)]

end Json

end SpatialWorkload

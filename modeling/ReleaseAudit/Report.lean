import ReleaseAudit.Check.Battery
import ReleaseAudit.Json.Printer

/-! The report of a run and the list of checks, as text and for machines. -/
namespace ReleaseAudit

/-- The report of a run with the given results. -/
structure Report where
  passed : Bool
  mode : Mode
  releases : Nat
  versions : Nat
  results : List CheckResult
  deriving DecidableEq

namespace Report

def ofResults (index : ReleaseIndex) (mode : Mode) (results : List CheckResult) : Report :=
  ⟨(collectViolations results).isEmpty, mode, index.releases.length, index.versionCount, results⟩

def json (r : Report) : Json :=
  .obj [("passed", .bool r.passed), ("mode", .str r.mode.name), ("releases", .int r.releases),
    ("versions", .int r.versions), ("results", .arr (r.results.map CheckResult.json))]

def text (r : Report) : String := r.json.pretty 0

end Report

structure CheckEntry where
  name : String
  stage : Stage
  description : String
  deriving DecidableEq

def CheckEntry.json (e : CheckEntry) : Json :=
  .obj [("name", .str e.name), ("stage", .str e.stage.name), ("description", .str e.description)]

def CheckEntry.line (e : CheckEntry) : String :=
  "   • " ++ e.name ++ " [" ++ e.stage.name ++ "]: " ++ e.description

def checkEntries : List CheckEntry :=
  (standardChecks : List (Check Empty)).map fun c => ⟨c.name, c.stage, c.description⟩

/-- The lines that list the checks, in the order in which they run. -/
def listing (asJson : Bool) : List String :=
  if asJson then [(Json.arr (checkEntries.map CheckEntry.json)).pretty 0]
  else "📋 Registered checks (in run order):" :: checkEntries.map CheckEntry.line

end ReleaseAudit

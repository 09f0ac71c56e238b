import ReleaseAudit.Git.Command
import ReleaseAudit.Status

/-! The machine that a run takes place on. -/
namespace ReleaseAudit

/-- All that a run depends on. -/
structure Machine where
  files : FileSystem
  environment : Environment
  git : Git
  /-- Whether the output goes to a terminal. -/
  isTerminal : Bool

def Machine.printer (m : Machine) : Printer :=
  .detect m.isTerminal (m.environment.lookup "NO_COLOR").isSome

end ReleaseAudit

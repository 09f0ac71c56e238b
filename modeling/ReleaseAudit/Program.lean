import ReleaseAudit.Audit
import ReleaseAudit.CommandLine
import ReleaseAudit.Text.Lines

/-! The program as a whole: what it does on a machine when it is started with arguments. -/
namespace ReleaseAudit

/-- How a program ends: its status, what it did, and the fault that ended it. -/
structure Outcome where
  status : UInt8
  log : List Effect
  fault : Option Fault

namespace Outcome

def ofTraced (x : Traced Effect Unit) : Outcome :=
  match x.result with
  | .ok () => ⟨0, x.log, none⟩
  | .error f => ⟨f.exitCode, x.log, some f⟩

def ofUsage (u : Usage) : Outcome :=
  ⟨u.status, [if u.status = 0 then .said u.text else .noted u.text], none⟩

def outputLines (log : List Effect) : List String :=
  log.filterMap fun
    | .said line => some line
    | _ => none

def messageLines (log : List Effect) : List String :=
  log.filterMap fun
    | .noted line => some line
    | _ => none

def commands (log : List Effect) : List Git.Command :=
  log.filterMap fun
    | .ran command => some command
    | _ => none

def output (o : Outcome) : String := Text.unlines (outputLines o.log)

/-- The messages; those of a fault come last. -/
def messages (o : Outcome) : String :=
  Text.unlines (messageLines o.log) ++ (o.fault.map Fault.notice).getD ""

end Outcome

namespace Program

def check (m : Machine) (root : Path) (o : Overrides) (asJson : Bool) : Traced Effect Unit := do
  let settings ← Traced.ofExcept (Settings.load m root o)
  Audit.run m settings asJson

def perform (m : Machine) (root : Path) : Request → Traced Effect Unit
  | .check o asJson _ => check m root o asJson
  | .list asJson => Audit.sayAll (listing asJson)

def run (m : Machine) (root : Path) (args : List String) : Outcome :=
  match CommandLine.parse args with
  | .ok request => .ofTraced (perform m root request)
  | .error usage => .ofUsage usage

end Program
end ReleaseAudit

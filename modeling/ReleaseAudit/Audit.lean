import ReleaseAudit.Audit.Document
import ReleaseAudit.Git.Cache
import ReleaseAudit.Report
import ReleaseAudit.Schema.Validator
import ReleaseAudit.Settings

/-! The audit of a release index: it is read, judged by its schema, checked by itself and against
the repository, and the outcome is reported. -/
namespace ReleaseAudit
namespace Audit

def readFile (fs : FileSystem) (failure : String) (path : Path) : Except Fault String :=
  (fs.readText path).mapError fun e => (Fault.system e).context (failure ++ " from " ++ path.text)

def isJsonPath (path : Path) : Bool :=
  match path.extension with
  | some e => e.toList.map Char.toLower = ['j', 's', 'o', 'n']
  | none => false

/-- The document in a file: JSON if the path says so, and YAML otherwise. -/
def loadDocument (fs : FileSystem) (path : Path) : Except Fault Json := do
  let text ← readFile fs "Failed to read release index" path
  (if isJsonPath path then readJson text else readYaml text).mapError
    (Fault.context ("Failed to parse " ++ path.text))

/-- The schema in a file, which is JSON whatever the path says. -/
def loadSchema (fs : FileSystem) (path : Path) : Except Fault Json := do
  let text ← readFile fs "Failed to read schema" path
  (readJson text).mapError (Fault.context ("Failed to parse schema " ++ path.text))

def validate (document schema : Json) : Except Fault Unit :=
  match Schema.Validator.ofJson schema with
  | .error flaw =>
    .error (.withHelp ("Invalid schema: " ++ flaw.message) "Fix the schema document itself")
  | .ok validator =>
    match validator.breaches document with
    | [] => .ok ()
    | found => .error (.schemaViolation (found.map Schema.Breach.message))

def loadIndex (fs : FileSystem) (s : Settings) : Except Fault ReleaseIndex := do
  let document ← loadDocument fs s.manifest
  let schema ← loadSchema fs s.schema
  validate document schema
  readIndex document

def headline (s : Settings) : String :=
  "🔍 Checking release index at " ++ s.manifest.text ++ " against schema at " ++ s.schema.text ++
    " and repo at " ++ s.repository.text

/-- The printer of status lines. A report for machines leaves no room for them. -/
def printerFor (m : Machine) (asJson : Bool) : Printer := if asJson then .silent else m.printer

/-- The report for machines, if it is asked for. -/
def reportLines (asJson : Bool) (index : ReleaseIndex) (mode : Mode) (results : List CheckResult) :
    List String :=
  if asJson then [(Report.ofResults index mode results).text] else []

section Conducting

variable {n : Type → Type} [Tracing n Effect]

def sayAll (lines : List String) : n Unit := Tracing.emitAll (lines.map .said)

def conduct [Monad n] (m : Machine) (s : Settings) (asJson : Bool) (connect : n (Access n)) :
    n Unit := do
  let printer := printerFor m asJson
  sayAll (printer.info (headline s))
  let index ← Tracing.ofExcept (loadIndex m.files s)
  sayAll (printer.success "Schema validation passed")
  let results ← runChecks index s.mode (fun r => (printer.report r).map .said) connect
  sayAll (reportLines asJson index s.mode results)
  Tracing.ofExcept (finish (collectViolations results) s.mode)
  sayAll (printer.success "✅ All checks passed")

end Conducting

def connect (m : Machine) (s : Settings) : Traced Effect (Repository Effect) := do
  return (← Git.openOrClone m s.repository s.remote s.mainBranch).repository

def run (m : Machine) (s : Settings) (asJson : Bool) : Traced Effect Unit :=
  conduct m s asJson (connect m s)

end Audit
end ReleaseAudit

import ReleaseAudit.FileSystem
import ReleaseAudit.Release.Shape
import ReleaseAudit.Text.Blank
import ReleaseAudit.Toml.Reader
import ReleaseAudit.Traced

/-! The configuration file: where it is looked for, what it may say, and what holds without it. -/
namespace ReleaseAudit

structure Config where
  manifest : Path
  schema : Path
  repository : Option Path
  remote : Option String
  mainBranch : String
  mode : Mode
  deriving DecidableEq, Repr

namespace Config

def standard : Config :=
  ⟨⟨"release-index.yaml"⟩, ⟨"release-index-schema.json"⟩, none, none, "master", .failFast⟩

inductive Flaw where
  | unreadable (flaw : Toml.Flaw)
  | unknownField (name : String) (known : List String)
  | unknownVariant (name : String) (known : List String)
  | wrongType (found : Shape.Found) (expected : String)
  | noVariant
  deriving DecidableEq, Repr

def ticked (name : String) : String := "\x60" ++ name ++ "\x60"

def alternatives (known : List String) : String :=
  match known with
  | [a, b] => ticked a ++ " or " ++ ticked b
  | [a] => ticked a
  | _ => "one of " ++ String.intercalate ", " (known.map ticked)

def Flaw.message : Flaw → String
  | .unreadable flaw => "TOML parse error: " ++ flaw.message
  | .unknownField name known => "unknown field " ++ ticked name ++ ", expected " ++ alternatives known
  | .unknownVariant name known =>
    "unknown variant " ++ ticked name ++ ", expected " ++ alternatives known
  | .wrongType found expected => "invalid type: " ++ found.message ++ ", expected " ++ expected
  | .noVariant => "wanted string or table"

def floatText (x : Float) : String :=
  if x.isNaN then "NaN"
  else if x.isInf then if x < 0 then "-inf" else "inf"
  else Decimal.pointedNotation.write x

def found : Toml.Value → Shape.Found
  | .string s => .text s
  | .integer i => .integer i
  | .float x => .floating (floatText x)
  | .boolean b => .boolean b
  | .moment => .map
  | .array _ _ => .sequence
  | .table _ _ => .map

def readText (expected : String) : Toml.Value → Except Flaw String
  | .string s => .ok s
  | v => .error (.wrongType (found v) expected)

def readPath (v : Toml.Value) : Except Flaw Path := (readText "path string" v).map Path.mk

def readString (v : Toml.Value) : Except Flaw String := readText "a string" v

def modeNames : List String := [Mode.failFast.name, Mode.batch.name]

def modeOfName (name : String) : Except Flaw Mode :=
  if name = Mode.failFast.name then .ok .failFast
  else if name = Mode.batch.name then .ok .batch
  else .error (.unknownVariant name modeNames)

def isEmptyValue : Toml.Value → Bool
  | .array _ items => items.isEmpty
  | .table _ fields => fields.isEmpty
  | _ => false

/-- A mode: its name, or a table with nothing under its name. -/
def readMode : Toml.Value → Except Flaw Mode
  | .string s => modeOfName s
  | .table _ [(name, v)] => do
    let mode ← modeOfName name
    if isEmptyValue v then return mode else .error .noVariant
  | _ => .error .noVariant

structure Section where
  record : String
  names : List String
  set : String → Toml.Value → Config → Except Flaw Config

namespace Section

def assign (s : Section) (c : Config) (name : String) (v : Toml.Value) : Except Flaw Config :=
  if s.names.contains name then s.set name v c else .error (.unknownField name s.names)

/-- The name under which a date or a time would show its text. -/
def momentField : String := "$__toml_private_datetime"

/-- Reads a record, written as a table or as an array of its first fields. -/
def read (s : Section) (v : Toml.Value) (c : Config) : Except Flaw Config :=
  match v with
  | .table _ fields => fields.foldlM (fun c f => s.assign c f.1 f.2) c
  | .array _ items => (s.names.zip items).foldlM (fun c f => s.assign c f.1 f.2) c
  | .moment => .error (.unknownField momentField s.names)
  | v => .error (.wrongType (found v) ("struct " ++ s.record))

def index : Section where
  record := "IndexConfig"
  names := ["path", "schema"]
  set name v c :=
    if name = "path" then do return { c with manifest := ← readPath v }
    else do return { c with schema := ← readPath v }

def repository : Section where
  record := "RepositoryConfig"
  names := ["path", "remote", "main_branch"]
  set name v c :=
    if name = "path" then do return { c with repository := some (← readPath v) }
    else if name = "remote" then do return { c with remote := some (← readString v) }
    else do return { c with mainBranch := ← readString v }

def report : Section where
  record := "ReportConfig"
  names := ["mode"]
  set _ v c := do return { c with mode := ← readMode v }

def root : Section where
  record := "CheckerConfig"
  names := ["index", "repository", "report"]
  set name v c :=
    if name = "index" then index.read v c
    else if name = "repository" then repository.read v c
    else report.read v c

end Section

/-- The settings that a text names, over those that hold without it. -/
def read (text : String) : Except Flaw Config :=
  match Toml.parse text with
  | .error flaw => .error (.unreadable flaw)
  | .ok fields => Section.root.read (.table .header fields) standard

end Config

/-- Why a name is no name for a branch. -/
def branchNameFlaw? (name : String) : Option String :=
  if name = "" then some "branch name must not be empty"
  else if name.toList.head? = some '-' then some "branch name must not start with '-'"
  else if name.toList.any Text.isBlank then some "branch name must not contain whitespace"
  else none

def validateBranchName (field name : String) : Except Fault Unit :=
  match branchNameFlaw? name with
  | some reason => .error (.invalidSetting field name reason)
  | none => .ok ()

theorem validateBranchName_eq_ok {field name : String} :
    validateBranchName field name = .ok () ↔ branchNameFlaw? name = none := by
  unfold validateBranchName
  cases branchNameFlaw? name <;> simp

theorem validateBranchName_eq_error {field name : String} {fault : Fault} :
    validateBranchName field name = .error fault ↔
      ∃ reason, branchNameFlaw? name = some reason ∧ fault = .invalidSetting field name reason := by
  unfold validateBranchName
  cases branchNameFlaw? name <;> simp [eq_comm]

namespace Config

def validateRemote : Option String → Except Fault Unit
  | none => .ok ()
  | some remote =>
    if Text.isAllBlank remote then
      .error (.invalidSetting "repository.remote" remote "remote URL must not be empty")
    else .ok ()

def validate (c : Config) : Except Fault Unit := do
  validateBranchName "repository.main_branch" c.mainBranch
  validateRemote c.remote

/-- The settings that the text of a configuration file names. -/
def ofText (text : String) : Except Fault Config := do
  let c ← (read text).mapError fun flaw => .ofText ("TOML deserialization error: " ++ flaw.message)
  c.validate
  return c

theorem validate_of_ofText {text : String} {c : Config} (h : ofText text = .ok c) :
    c.validate = .ok () := by
  obtain ⟨_, -, h⟩ := bind_eq_ok.mp h
  obtain ⟨_, hvalid, h⟩ := bind_eq_ok.mp h
  obtain rfl := Except.ok.inj h
  exact hvalid

def fileName : String := "release-index-check.toml"

def candidates (folder : Path) : List Path :=
  [folder.join ⟨fileName⟩, folder.join ⟨"." ++ fileName⟩,
    (folder.join ⟨".config"⟩).join ⟨fileName⟩]

def find? (fs : FileSystem) (folder : Path) : Option Path := (candidates folder).find? fs.exists?

def ofFile (fs : FileSystem) (path : Path) : Except Fault Config := do
  let text ← ((fs.readText path).mapError Fault.system).mapError
    (Fault.context ("Failed to read config from " ++ path.text))
  (ofText text).mapError (Fault.context ("Invalid configuration in " ++ path.text))

/-- The settings of the configuration file that a folder holds, or those that hold without one. -/
def load (fs : FileSystem) (folder : Path) : Except Fault Config :=
  match find? fs folder with
  | some path => ofFile fs path
  | none => .ok standard

end Config
end ReleaseAudit

import ReleaseAudit.Machine
import ReleaseAudit.Settings.Config

/-! The settings of a run, gathered from the command line, the environment and the configuration. -/
namespace ReleaseAudit

structure Overrides where
  manifest : Option Path
  schema : Option Path
  repository : Option Path
  remote : Option String
  mainBranch : Option String
  batch : Bool
  deriving DecidableEq, Repr

def Overrides.none : Overrides := ⟨.none, .none, .none, .none, .none, false⟩

structure Settings where
  manifest : Path
  schema : Path
  repository : Path
  remote : Option String
  mainBranch : String
  mode : Mode
  deriving DecidableEq, Repr

namespace Settings

def repositoryVariable : String := "RELEASE_INDEX_REPO_PATH"

/-- The repository that the environment names. An empty name is none. -/
def environmentRepository (environment : Environment) : Option Path :=
  ((environment.lookup repositoryVariable).filter (· ≠ "")).map Path.mk

def missingRepository : Fault :=
  .missingSetting "repository path"
    ("Pass --repo-path, set " ++ repositoryVariable ++
      " or add [repository] path to release-index-check.toml")

def chooseRepository (c : Config) (o : Overrides) (environment : Environment) : Except Fault Path :=
  match o.repository <|> environmentRepository environment <|> c.repository with
  | some path => .ok path
  | none => .error missingRepository

def chooseMainBranch (c : Config) (o : Overrides) : Except Fault String :=
  match o.mainBranch with
  | some name => do
    validateBranchName "--main-branch" name
    return name
  | none => .ok c.mainBranch

/-- For each setting the command line comes first, then, for the repository, the environment, and
the configuration last. Paths are seen from `root`. -/
def resolve (root : Path) (c : Config) (o : Overrides) (environment : Environment) :
    Except Fault Settings := do
  let repository ← chooseRepository c o environment
  let mainBranch ← chooseMainBranch c o
  return {
    manifest := root.join (o.manifest.getD c.manifest)
    schema := root.join (o.schema.getD c.schema)
    repository := root.join repository
    remote := o.remote <|> c.remote
    mainBranch := mainBranch
    mode := if o.batch then .batch else c.mode }

theorem resolve_eq_ok {root : Path} {c : Config} {o : Overrides} {environment : Environment}
    {s : Settings} : resolve root c o environment = .ok s ↔ ∃ repository mainBranch,
      chooseRepository c o environment = .ok repository ∧ chooseMainBranch c o = .ok mainBranch ∧
      s = {
        manifest := root.join (o.manifest.getD c.manifest)
        schema := root.join (o.schema.getD c.schema)
        repository := root.join repository
        remote := o.remote <|> c.remote
        mainBranch := mainBranch
        mode := if o.batch then .batch else c.mode } := by
  unfold resolve
  simp only [bind_eq_ok, exists_and_left]
  refine exists_congr fun repository => and_congr_right fun _ => ?_
  refine exists_congr fun mainBranch => and_congr_right fun _ => ?_
  exact ⟨fun h => (Except.ok.inj h).symm, fun h => congrArg Except.ok h.symm⟩

/-- The settings of a run in a folder. -/
def load (m : Machine) (root : Path) (o : Overrides) : Except Fault Settings := do
  resolve root (← Config.load m.files root) o m.environment

end Settings
end ReleaseAudit

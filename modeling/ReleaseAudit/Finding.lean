import ReleaseAudit.Json

/-! What the checks find: violations, which fail a run, and advisories, which do not. -/
namespace ReleaseAudit

inductive Stage where
  | manifest | repository
  deriving DecidableEq, Repr

def Stage.name : Stage → String
  | .manifest => "manifest"
  | .repository => "repository"

/-- Whether a run stops at the first violation or reports all of them. -/
inductive Mode where
  | failFast | batch
  deriving DecidableEq, Repr

def Mode.name : Mode → String
  | .failFast => "fail-fast"
  | .batch => "batch"

def Mode.isFailFast : Mode → Bool
  | .failFast => true
  | .batch => false

theorem Mode.isFailFast_iff {mode : Mode} : mode.isFailFast = true ↔ mode = .failFast := by
  cases mode <;> simp [isFailFast]

/-- A finding that fails the run, with the entries of the index that it is about. -/
inductive Violation where
  | missingBaseVersion (rcName : String)
  | duplicateVersionName (rcName name : String)
  | rcOutOfOrder (previous current : String)
  | commitNotFound (reference : String)
  | notOnBranch (reference branch : String) (found : List String)
  | tagDrift (tag tagSha commitSha : String)
  deriving DecidableEq, Repr

/-- Where the fault behind a violation lies. -/
inductive Violation.Category where
  | manifestInvariant | repositoryResolution | tagDrift
  deriving DecidableEq, Repr

namespace Violation

def category : Violation → Category
  | .missingBaseVersion _ | .duplicateVersionName _ _ | .rcOutOfOrder _ _ => .manifestInvariant
  | .commitNotFound _ | .notOnBranch _ _ _ => .repositoryResolution
  | .tagDrift _ _ _ => .tagDrift

def message : Violation → String
  | .missingBaseVersion rcName => "Release " ++ rcName ++ " does not have a base version"
  | .duplicateVersionName rcName name =>
    "Version " ++ name ++ " in release " ++ rcName ++
      " has the same name as another version from the same release"
  | .rcOutOfOrder previous current =>
    "Release " ++ current ++ " is newer than " ++ previous ++ " but is listed after it"
  | .commitNotFound reference => "Commit " ++ reference ++ " does not exist"
  | .notOnBranch reference branch found =>
    "Commit " ++ reference ++ " is not on branch " ++ branch ++ ". Commit found on branches: " ++
      (if found.isEmpty then "(none)" else String.intercalate ", " found)
  | .tagDrift tag tagSha commitSha => "Tag " ++ tag ++ " points to " ++ tagSha ++ " not " ++ commitSha

def help : Violation → String
  | .missingBaseVersion rcName => "Add a version named 'base' to " ++ rcName
  | .duplicateVersionName _ _ => "Give every version in a release a distinct name"
  | .rcOutOfOrder _ _ => "Releases must be listed newest first"
  | .commitNotFound _ => "Check the commit-ish for typos or push the commit to the remote"
  | .notOnBranch _ branch _ => "Cherry-pick the commit onto " ++ branch ++ " or fix the version entry"
  | .tagDrift tag _ _ =>
    "Either the manifest or tag " ++ tag ++ " is wrong; they must name the same commit"

def json : Violation → Json
  | .missingBaseVersion rcName => .obj [("kind", .str "missing_base_version"), ("rc_name", .str rcName)]
  | .duplicateVersionName rcName name =>
    .obj [("kind", .str "duplicate_version_name"), ("rc_name", .str rcName), ("name", .str name)]
  | .rcOutOfOrder previous current =>
    .obj [("kind", .str "rc_out_of_order"), ("previous", .str previous), ("current", .str current)]
  | .commitNotFound reference =>
    .obj [("kind", .str "commit_not_found"), ("reference", .str reference)]
  | .notOnBranch reference branch found =>
    .obj [("kind", .str "not_on_branch"), ("reference", .str reference), ("branch", .str branch),
      ("found", .arr (found.map .str))]
  | .tagDrift tag tagSha commitSha =>
    .obj [("kind", .str "tag_drift"), ("tag", .str tag), ("tag_sha", .str tagSha),
      ("commit_sha", .str commitSha)]

end Violation

inductive Advisory where
  | tagMissing (tag : String)
  deriving DecidableEq, Repr

def Advisory.message : Advisory → String
  | .tagMissing tag => "Tag " ++ tag ++ " does not exist"

def Advisory.json : Advisory → Json
  | .tagMissing tag => .obj [("kind", .str "tag_missing"), ("tag", .str tag)]

inductive Severity where
  | info | warning | error
  deriving DecidableEq, Repr

/-- What a check reports: its findings, and the message that stands for a pass. -/
structure CheckResult where
  checkName : String
  message : String
  violations : List Violation
  advisories : List Advisory
  deriving DecidableEq, Repr

namespace CheckResult

def passed (r : CheckResult) : Bool := r.violations.isEmpty

theorem passed_iff {r : CheckResult} : r.passed = true ↔ r.violations = [] := List.isEmpty_iff

theorem passed_eq_false_iff {r : CheckResult} : r.passed = false ↔ r.violations ≠ [] := by
  rw [ne_eq, ← passed_iff, Bool.not_eq_true]

def severity (r : CheckResult) : Severity :=
  if !r.violations.isEmpty then .error
  else if !r.advisories.isEmpty then .warning
  else .info

theorem severity_eq_error_iff {r : CheckResult} : r.severity = .error ↔ r.passed = false := by
  unfold severity passed
  cases r.violations.isEmpty <;> cases r.advisories.isEmpty <;> simp

def json (r : CheckResult) : Json :=
  .obj [("check_name", .str r.checkName), ("message", .str r.message),
    ("violations", .arr (r.violations.map Violation.json)),
    ("advisories", .arr (r.advisories.map Advisory.json))]

end CheckResult

/-- Every violation of a list of results, in order. -/
def collectViolations (results : List CheckResult) : List Violation :=
  results.flatMap (·.violations)

@[simp] theorem collectViolations_nil : collectViolations [] = [] := rfl

@[simp] theorem collectViolations_cons (r : CheckResult) (rs : List CheckResult) :
    collectViolations (r :: rs) = r.violations ++ collectViolations rs := by
  simp [collectViolations]

@[simp] theorem collectViolations_append (rs ss : List CheckResult) :
    collectViolations (rs ++ ss) = collectViolations rs ++ collectViolations ss := by
  simp [collectViolations]

theorem collectViolations_eq_nil_iff {rs : List CheckResult} :
    collectViolations rs = [] ↔ ∀ r ∈ rs, r.passed = true := by
  simp only [collectViolations, List.flatMap_eq_nil_iff, CheckResult.passed_iff]

theorem any_not_passed_iff {rs : List CheckResult} :
    rs.any (!·.passed) = true ↔ collectViolations rs ≠ [] := by
  simp [collectViolations_eq_nil_iff]

end ReleaseAudit

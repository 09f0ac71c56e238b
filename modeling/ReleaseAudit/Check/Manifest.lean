import ReleaseAudit.Check

/-! The checks that need nothing but the index. -/
namespace ReleaseAudit
namespace Rule

variable {m : Type → Type} [Monad m]

def baseVersion : Rule m :=
  .ofIndex "base-version" "Validates that every release declares a version named 'base'"
    "All releases have a base version" ReleaseIndex.releases fun r =>
      if r.versions.any Version.isBase then none else some (.missingBaseVersion r.rcName)

def markRepeats (earlier : List String) : List Version → List (Version × Bool)
  | [] => []
  | v :: vs => (v, earlier.contains v.name) :: markRepeats (v.name :: earlier) vs

/-- Every version of an index with its release, and whether the release has used its name before. -/
def markedVersions (index : ReleaseIndex) : List (Release × Version × Bool) :=
  index.releases.flatMap fun r => (markRepeats [] r.versions).map fun marked => (r, marked)

def uniqueVersionNames : Rule m :=
  .ofIndex "unique-version-names" "Validates that version names are unique within each release"
    "All version names are unique within the respective releases" markedVersions fun marked =>
      if marked.2.2 then some (.duplicateVersionName marked.1.rcName marked.2.1.name) else none

def neighbours {α : Type} (xs : List α) : List (α × α) := xs.zip xs.tail

/-- No release is newer than the one listed before it. -/
def rcOrder : Rule m :=
  .ofIndex "rc-order" "Validates that releases are ordered newest first by RC timestamp"
    "All RCs are ordered descending by date" (fun index => neighbours index.releases) fun pair =>
      if pair.2.timestamp ≤ pair.1.timestamp then none
      else some (.rcOutOfOrder pair.1.rcName pair.2.rcName)

end Rule
end ReleaseAudit

import ReleaseAudit.Check

/-! The checks that ask the repository about commits, branches and tags. A version whose reference
names no commit is reported once, by the first of them. -/
namespace ReleaseAudit
namespace Rule

variable {ε : Type} {m : Type → Type} [Monad m] [Tracing m ε]

def commitExistence : Rule m :=
  .ofVersions "commit-existence" "Validates that every version resolves to an existing commit"
    "All commits exist" fun repository (_, v) => do
      match ← repository.lookUp v.reference with
      | some _ => return none
      | none => return some (.violation (.commitNotFound v.reference))

def branchMembership : Rule m :=
  .ofVersions "branch-membership" "Validates that every version's commit is on its RC branch"
    "All versions are on the correct branches" fun repository (r, v) => do
      match ← repository.lookUp v.reference with
      | none => return none
      | some commit =>
        if commit.isOnBranch r.rcName then return none
        else return some (.violation (.notOnBranch v.reference r.rcName commit.branches.names))

/-- Every release tag that exists points at the commit of its version. -/
def tagConsistency : Rule m :=
  .ofVersions "tag-consistency" "Validates that existing release tags point at the declared commits"
    "Finished tag consistency check" fun repository (r, v) => do
      let tagName := r.tagName v
      match ← repository.lookUp tagName with
      | none => return some (.advisory (.tagMissing tagName))
      | some tag =>
        match ← repository.lookUp v.reference with
        | none => return none
        | some commit =>
          if tag.sha = commit.sha then return none
          else return some (.violation (.tagDrift tagName tag.sha commit.sha))

end Rule
end ReleaseAudit

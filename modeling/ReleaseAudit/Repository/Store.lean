import ReleaseAudit.Repository

/-! A repository held in memory. References and commits are tables in which the last entry for a
name counts; nothing that is asked of the store changes it. -/
namespace ReleaseAudit

abbrev Table (α : Type) := List (String × α)

namespace Table

variable {α : Type}

def get? (t : Table α) (name : String) : Option α := (t.find? fun e => e.1 = name).map (·.2)

def put (t : Table α) (name : String) (a : α) : Table α := (name, a) :: t

@[simp] theorem get?_nil (name : String) : get? ([] : Table α) name = none := rfl

@[simp] theorem get?_put_self (t : Table α) (name : String) (a : α) :
    (t.put name a).get? name = some a := by
  simp [get?, put]

theorem get?_put_of_ne {t : Table α} {name other : String} {a : α} (h : name ≠ other) :
    (t.put name a).get? other = t.get? other := by
  simp [get?, put, h]

end Table

/-- Commits with the branches that contain them, references to them, and the branches of the
remote. -/
structure Store where
  commits : Table BranchSet
  references : Table String
  remoteBranches : List String
  failingFetch : Bool

namespace Store

def empty : Store := ⟨[], [], [], false⟩

/-- Adds a commit on some branches, which the remote then has. Its sha also names it. -/
def withCommit (s : Store) (sha : String) (branches : List String) : Store :=
  { s with
    commits := s.commits.put sha (.ofList branches)
    references := s.references.put sha sha
    remoteBranches := branches ++ s.remoteBranches }

/-- Lets a tag point at a sha, whether or not there is such a commit. -/
def withTag (s : Store) (tag sha : String) : Store :=
  { s with references := s.references.put tag sha }

def withRemoteBranch (s : Store) (branch : String) : Store :=
  { s with remoteBranches := branch :: s.remoteBranches }

def withFailingFetch (s : Store) : Store := { s with failingFetch := true }

def lookUp (s : Store) (reference : String) : Option Commit := do
  let sha ← s.references.get? reference
  let branches ← s.commits.get? sha
  return ⟨sha, branches⟩

def fetch (s : Store) : Except Fault Unit :=
  if s.failingFetch then
    .error (.gitCommandFailed "git fetch" "fatal: 'origin' does not appear to be a git repository")
  else .ok ()

def ensureBranches (s : Store) (names : List String) : Except Fault Unit :=
  match names.find? fun name => !s.remoteBranches.contains name with
  | some missing => .error (.branchNotFound missing)
  | none => .ok ()

def accessor (s : Store) : Accessor where
  fetch := s.fetch
  ensureBranches := s.ensureBranches
  lookUp reference := .ok (s.lookUp reference)

end Store
end ReleaseAudit

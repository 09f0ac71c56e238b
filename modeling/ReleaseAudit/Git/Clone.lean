import ReleaseAudit.Git.Command
import ReleaseAudit.Repository
import ReleaseAudit.Text.Blank
import ReleaseAudit.Text.Infix
import ReleaseAudit.Text.Lines

/-! A clone on disk. Only what its remote has counts, and no text from outside is read as an
option. -/
namespace ReleaseAudit
namespace Git

def remoteName : String := "origin"

structure Clone where
  path : Path
  environment : Environment
  git : Git

/-- The branch of the remote that a reference stands for. The remote's own pointer to its main
branch and all other references stand for none. -/
def branchOf? (reference : String) : Option String :=
  let lead := ("refs/remotes/" ++ remoteName ++ "/").toList
  let name := (Text.trim reference).toList
  if lead.isPrefixOf name then
    let branch := String.ofList (name.drop lead.length)
    if branch = "" || branch = "HEAD" then none else some branch
  else none

/-- A reference that git would read as an option, or that is none. -/
def isUnsafe (reference : String) : Bool := reference = "" || reference.toList.head? = some '-'

def requireSuccess (command : String) (reply : Reply) : Except Fault Unit :=
  if reply.isSuccess then .ok () else .error (.gitCommandFailed command reply.err)

/-- Runs commands inside a clone; `failure` is added to the fault of one that cannot be run. -/
abbrev Runner (m : Type → Type) := (failure : String) → (args : List String) → m Reply

def fetchArgs (remote : String) : List String := ["fetch", "--prune", "--tags", "--force", remote]

def resolveArgs (reference : String) : List String :=
  ["rev-parse", "--verify", "--quiet", reference ++ "^\x7bcommit\x7d"]

def remoteRefs : String := "refs/remotes/" ++ remoteName

def containingArgs (sha : String) : List String :=
  ["for-each-ref", "--format=%(refname)", "--contains", sha, remoteRefs]

def publishedArgs (sha : String) : List String :=
  ["for-each-ref", "--count=1", "--format=%(refname)", "--contains", sha, remoteRefs, "refs/tags"]

def branchRef (branch : String) : String := remoteRefs ++ "/" ++ branch

def hasBranchArgs (branch : String) : List String :=
  ["show-ref", "--verify", "--quiet", branchRef branch]

def refspec (branch : String) : String := "+refs/heads/" ++ branch ++ ":" ++ branchRef branch

def fetchBranchArgs (branch : String) : List String := ["fetch", remoteName, refspec branch]

/-- The outcome of fetching one branch. -/
def branchFetched (branch : String) (reply : Reply) : Except Fault Unit :=
  if reply.isSuccess then .ok ()
  else if Text.contains reply.err "couldn't find remote ref" then .error (.branchNotFound branch)
  else .error (.gitCommandFailed ("git fetch " ++ remoteName ++ " " ++ refspec branch) reply.err)

theorem branchOf?_branchRef {branch : String} (hne : branch ≠ "") (hhead : branch ≠ "HEAD")
    (h : ∀ c ∈ branch.toList, Text.isBlank c = false) :
    branchOf? (branchRef branch) = some branch := by
  have hall : ((remoteRefs ++ "/").toList.all fun c => !Text.isBlank c) = true := by decide
  have hlead : ∀ c ∈ (remoteRefs ++ "/").toList, Text.isBlank c = false := fun c hc => by
    simpa using List.all_eq_true.mp hall c hc
  have htrim : Text.trim (branchRef branch) = branchRef branch := by
    refine Text.trim_of_noBlank fun c hc => ?_
    rw [branchRef, String.toList_append] at hc
    exact (List.mem_append.mp hc).elim (hlead c) (h c)
  have hcut : (branchRef branch).toList =
      ("refs/remotes/" ++ remoteName ++ "/").toList ++ branch.toList := String.toList_append
  unfold branchOf?
  rw [htrim, hcut]
  generalize ("refs/remotes/" ++ remoteName ++ "/").toList = lead
  simp [hne, hhead]

@[simp] theorem branchOf?_head : branchOf? (branchRef "HEAD") = none := by decide

@[simp] theorem branchOf?_empty : branchOf? "" = none := by decide

namespace Runner

variable {m : Type → Type} [Monad m] [Tracing m Effect]

def fetchFrom (run : Runner m) (remote : String) : m Unit := do
  Tracing.emitAll [.noted ("   Fetching from remote '" ++ remote ++ "'...")]
  let reply ← run "Failed to fetch" (fetchArgs remote)
  Tracing.ofExcept (requireSuccess "git fetch" reply)
  Tracing.emitAll [.noted ("   ✅ Fetched from " ++ remote)]

def resolve (run : Runner m) (reference : String) : m (Option String) := do
  if isUnsafe reference then return none
  else
    let reply ← run "Failed to run git rev-parse" (resolveArgs reference)
    return if reply.isSuccess then some (Text.trim reply.out) else none

def branchesContaining (run : Runner m) (sha : String) : m BranchSet := do
  let reply ← run "Failed to list branches containing commit" (containingArgs sha)
  Tracing.ofExcept (requireSuccess "git for-each-ref --contains" reply)
  return .ofList ((Text.lines reply.out).filterMap branchOf?)

/-- Whether a branch of the remote or a tag contains a commit. -/
def isPublished (run : Runner m) (sha : String) : m Bool := do
  let reply ← run "Failed to check whether commit is published" (publishedArgs sha)
  Tracing.ofExcept (requireSuccess "git for-each-ref --contains" reply)
  return !Text.isAllBlank reply.out

def hasBranch (run : Runner m) (branch : String) : m Bool := do
  return (← run "Failed to run git show-ref" (hasBranchArgs branch)).isSuccess

def fetchBranch (run : Runner m) (branch : String) : m Unit := do
  let reply ← run "Failed to fetch branch" (fetchBranchArgs branch)
  Tracing.ofExcept (branchFetched branch reply)

def ensureBranch (run : Runner m) (branch : String) : m Unit := do
  if ← run.hasBranch branch then return () else run.fetchBranch branch

def ensureBranches (run : Runner m) : List String → m Unit
  | [] => pure ()
  | branch :: rest => do
    run.ensureBranch branch
    run.ensureBranches rest

/-- The commit that a reference names, if the remote has it. -/
def lookUp (run : Runner m) (reference : String) : m (Option Commit) := do
  match ← run.resolve reference with
  | none => return none
  | some sha =>
    if ← run.isPublished sha then return some ⟨sha, ← run.branchesContaining sha⟩
    else return none

def access (run : Runner m) : Access m where
  fetch := run.fetchFrom remoteName
  ensureBranches := run.ensureBranches
  lookUp := run.lookUp

end Runner

namespace Clone

def command (c : Clone) (args : List String) : Command :=
  isolated c.environment (["-C", c.path.text] ++ args)

def run (c : Clone) : Runner (Traced Effect) := fun failure args =>
  c.git.shell failure (c.command args)

def fetchFrom (c : Clone) (remote : String) : Traced Effect Unit := c.run.fetchFrom remote

def resolve (c : Clone) (reference : String) : Traced Effect (Option String) :=
  c.run.resolve reference

def branchesContaining (c : Clone) (sha : String) : Traced Effect BranchSet :=
  c.run.branchesContaining sha

def isPublished (c : Clone) (sha : String) : Traced Effect Bool := c.run.isPublished sha

def hasBranch (c : Clone) (branch : String) : Traced Effect Bool := c.run.hasBranch branch

def ensureBranches (c : Clone) (branches : List String) : Traced Effect Unit :=
  c.run.ensureBranches branches

def lookUp (c : Clone) (reference : String) : Traced Effect (Option Commit) := c.run.lookUp reference

def repository (c : Clone) : Repository Effect := c.run.access

end Clone
end Git
end ReleaseAudit

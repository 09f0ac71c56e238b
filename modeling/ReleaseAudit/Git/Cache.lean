import ReleaseAudit.Git.Clone
import ReleaseAudit.Machine

/-! The clone that is kept between runs: opened if it is there, made if it is not. -/
namespace ReleaseAudit
namespace Git

/-- The question whether a folder is part of a repository. It is asked with the variables of the
user. -/
def openCommand (environment : Environment) (path : Path) : Command :=
  ⟨["-C", path.text, "rev-parse", "--show-toplevel"], environment⟩

def deniesRepository (err : String) : Bool :=
  Text.contains err "not a git repository" || Text.contains err "cannot change to"

def opened (m : Machine) (path : Path) (reply : Reply) : Except Fault Clone :=
  if reply.isSuccess then .ok ⟨path, m.environment, m.git⟩
  else if deniesRepository reply.err then .error (.repositoryNotFound path)
  else .error (.ofText ("Failed to open git repository: " ++ reply.err))

def cloneArgs (mainBranch remote : String) (path : Path) : List String :=
  ["clone", "--origin", remoteName, "--branch", mainBranch, "--no-checkout", remote, path.text]

/-- A path that is in use by anything but an empty folder is left alone. -/
def requireUnused (fs : FileSystem) (path : Path) : Except Fault Unit :=
  if fs.exists? path then
    match fs.children path with
    | .error e => .error (.system e)
    | .ok [] => .ok ()
    | .ok _ => .error (.withHelp
        ("Repository cache path " ++ path.text ++ " exists and is not a git clone")
        "Remove the directory or point --repo-path somewhere else")
  else .ok ()

def cloned (remote : String) (path : Path) (reply : Reply) : Except Fault Unit :=
  if reply.isSuccess then .ok () else .error (.cloneFailed remote path reply.err)

section Shells

variable {n : Type → Type} [Monad n] [Tracing n Effect]

def makeParent (fs : FileSystem) (path : Path) : n Unit :=
  match path.parent with
  | none => pure ()
  | some outer => do
    let (made, result) := fs.makeFolders (outer.text.length + 1) outer
    Tracing.emitAll (made.map .madeFolder)
    match result with
    | .ok _ => return ()
    | .error e =>
      Tracing.fail ((Fault.system e).context ("Failed to create cache directory " ++ outer.text))

namespace Shell

def openClone (shell : Shell n) (m : Machine) (path : Path) : n Clone := do
  let reply ← shell "Failed to execute git rev-parse" (openCommand m.environment path)
  Tracing.ofExcept (opened m path reply)

def makeClone (shell : Shell n) (m : Machine) (path : Path) (remote mainBranch : String) :
    n Clone := do
  Tracing.ofExcept (requireUnused m.files path)
  makeParent m.files path
  Tracing.emitAll [.noted ("   Cloning " ++ remote ++ " into " ++ path.text ++ "...")]
  let command := isolated m.environment (cloneArgs mainBranch remote path)
  let reply ← shell "Failed to run git clone" command
  Tracing.ofExcept (cloned remote path reply)
  shell.openClone m path

/-- Opens the clone at a path, or clones a remote there first. -/
def openOrClone (shell : Shell n) (m : Machine) (path : Path) (remote : Option String)
    (mainBranch : String) : n Clone :=
  if m.files.exists? (path.join ⟨".git"⟩) then shell.openClone m path
  else match remote with
    | none => Tracing.fail (.repositoryNotFound path)
    | some remote => shell.makeClone m path remote mainBranch

end Shell

end Shells

def openClone (m : Machine) (path : Path) : Traced Effect Clone := m.git.shell.openClone m path

def openOrClone (m : Machine) (path : Path) (remote : Option String) (mainBranch : String) :
    Traced Effect Clone :=
  m.git.shell.openOrClone m path remote mainBranch

end Git
end ReleaseAudit

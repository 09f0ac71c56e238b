import ReleaseAudit.FileSystem
import ReleaseAudit.Traced

/-! Running git: what a command sees, what it answers, and what a run leaves behind. -/
namespace ReleaseAudit

abbrev Environment := List (String × String)

namespace Git

structure Command where
  args : List String
  environment : Environment
  deriving DecidableEq, Repr

structure Reply where
  status : Nat
  out : String
  err : String
  deriving DecidableEq, Repr

def Reply.isSuccess (r : Reply) : Bool := r.status = 0

end Git

/-- How git answers commands. Without a git there is an error instead of a reply. -/
abbrev Git := Git.Command → Except SystemError Git.Reply

inductive Effect where
  /-- A line of its output. -/
  | said (line : String)
  /-- A text among its messages. -/
  | noted (text : String)
  | ran (command : Git.Command)
  | madeFolder (path : Path)
  deriving DecidableEq, Repr

def FileSystem.after (fs : FileSystem) : List Effect → FileSystem
  | [] => fs
  | .madeFolder p :: rest =>
    match fs.makeFolder p with
    | .ok made => made.after rest
    | .error _ => fs.after rest
  | _ :: rest => fs.after rest

namespace Git

/-- No system hands on an argument with a NUL in it. -/
def Command.hasNul (command : Command) : Bool :=
  command.args.any fun a => a.toList.contains '\x00'

def answer (git : Git) (command : Command) : Except Fault Reply :=
  if command.hasNul then .error (.system .nulInArgument) else (git command).mapError .system

/-- Runs a command. Only one that starts is seen. -/
def run (git : Git) (command : Command) : Traced Effect Reply :=
  .recorded (fun _ => .ran command) (git.answer command)

abbrev Shell (n : Type → Type) := (failure : String) → (command : Command) → n Reply

def shell (git : Git) : Shell (Traced Effect) := fun failure command =>
  (Git.run git command).context failure

def forwardedNames : List String :=
  ["PATH", "HOME", "SSH_AUTH_SOCK", "GIT_SSH_COMMAND", "HTTPS_PROXY", "https_proxy", "HTTP_PROXY",
    "http_proxy", "NO_PROXY", "no_proxy"]

def forwarded (environment : Environment) : Environment :=
  forwardedNames.filterMap fun name => (environment.lookup name).map fun value => (name, value)

/-- The variables of an isolated command, which never asks for a password. -/
def isolatedEnvironment (environment : Environment) : Environment :=
  forwarded environment ++ [("GIT_TERMINAL_PROMPT", "0")]

def safeSettings : List String :=
  ["-c", "protocol.version=2", "-c", "advice.detachedHead=false", "-c", "core.quotePath=false"]

/-- A command that sees neither the settings nor the variables of the user. -/
def isolated (environment : Environment) (args : List String) : Command :=
  ⟨safeSettings ++ args, isolatedEnvironment environment⟩

end Git
end ReleaseAudit

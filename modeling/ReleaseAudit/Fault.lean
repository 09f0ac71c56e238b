import ReleaseAudit.Decimal.Digits
import ReleaseAudit.Finding
import ReleaseAudit.Path
import ReleaseAudit.Text.Infix

/-! Everything that can end a run, with its text, its advice and the lines added on the way out. -/
namespace ReleaseAudit

inductive SystemError where
  | notFound | alreadyExists | notDirectory | isDirectory | nameTooLong | invalidUtf8
  | nulInPath | nulInArgument | incompleteTree
  | other (text : String)
  deriving DecidableEq, Repr

def SystemError.message : SystemError → String
  | .notFound => "No such file or directory (os error 2)"
  | .alreadyExists => "File exists (os error 17)"
  | .notDirectory => "Not a directory (os error 20)"
  | .isDirectory => "Is a directory (os error 21)"
  | .nameTooLong => "File name too long (os error 36)"
  | .invalidUtf8 => "stream did not contain valid UTF-8"
  | .nulInPath => "file name contained an unexpected NUL byte"
  | .nulInArgument => "nul byte found in provided data"
  | .incompleteTree => "failed to create whole tree"
  | .other text => text

inductive Fault where
  | missingSetting (field hint : String)
  | invalidSetting (field value reason : String)
  | gitCommandFailed (command stderr : String)
  | repositoryNotFound (path : Path)
  | cloneFailed (remote : String) (path : Path) (stderr : String)
  | branchNotFound (branch : String)
  | schemaViolation (messages : List String)
  | malformedIndex (reason : String)
  | violation (v : Violation)
  | violations (vs : List Violation)
  | system (error : SystemError)
  /-- A text, the lines added to it, newest first, and advice. -/
  | message (base : String) (contexts : List String) (help : Option String)
  deriving DecidableEq, Repr

namespace Fault

def ofText (text : String) : Fault := .message text [] none

def withHelp (text help : String) : Fault := .message text [] (some help)

/-- Adds a line to a fault that has room for it. An error of the system becomes a text; a fault that
says all there is to say stays as it is. -/
def context (line : String) : Fault → Fault
  | .message base contexts help => .message base (line :: contexts) help
  | .system e => .message ("I/O error: " ++ e.message) [line] none
  | fault => fault

def carried : Fault → List Violation
  | .violation v => [v]
  | .violations vs => vs
  | _ => []

/-- One line per entry, each behind `lead`. -/
def listed (lead : String) (lines : List String) : String := String.join (lines.map (lead ++ ·))

def text : Fault → String
  | .missingSetting field _ => "Missing required setting: " ++ field
  | .invalidSetting field value reason =>
    "Invalid value '" ++ value ++ "' for " ++ field ++ ": " ++ reason
  | .gitCommandFailed command stderr => "Git command failed: " ++ command ++ "\n" ++ stderr
  | .repositoryNotFound path => "Git repository not found at: " ++ path.text
  | .cloneFailed remote path stderr =>
    "Failed to clone " ++ remote ++ " into " ++ path.text ++ "\n" ++ stderr
  | .branchNotFound branch => "Branch " ++ branch ++ " does not exist on the remote"
  | .schemaViolation messages => "Schema validation failed:" ++ listed "\n  " messages
  | .malformedIndex reason => "Malformed release index: " ++ reason
  | .violation v => v.message
  | .violations vs =>
    Decimal.natText vs.length ++ " violation(s) found" ++ listed "\n  - " (vs.map Violation.message)
  | .system e => "I/O error: " ++ e.message
  | .message base contexts _ => base ++ listed "\n" contexts

/-- Whether git's own words blame the network. -/
def blamesNetwork (stderr : String) : Bool :=
  Text.contains stderr "Could not resolve host" || Text.contains stderr "unable to access"

def help : Fault → Option String
  | .missingSetting _ hint => some hint
  | .invalidSetting _ _ _ => some "Check release-index-check.toml and the command line flags."
  | .gitCommandFailed _ stderr =>
    if blamesNetwork stderr then
      some "Network access to the remote failed. Retry once connectivity is restored."
    else none
  | .repositoryNotFound path =>
    some ("Point --repo-path at a git clone or set a remote so the cache can be created: " ++ path.text)
  | .cloneFailed _ _ _ => some "Check the remote URL and your network access."
  | .branchNotFound branch =>
    some ("Push branch '" ++ branch ++ "' to the remote or fix the rc_name in the release index.")
  | .schemaViolation _ => some "Fix the release index so it matches release-index-schema.json."
  | .malformedIndex _ => some "RC names must look like rc--YYYY-MM-DD_HH-MM."
  | .violation v => some v.help
  | .violations [v] => some v.help
  | .violations _ => some "Rerun without --batch to stop at the first failure."
  | .system _ => none
  | .message _ _ help => help

def exitCode (_ : Fault) : UInt8 := 1

/-- The error of the system behind a fault. -/
def source : Fault → Option SystemError
  | .system e => some e
  | _ => none

@[simp] theorem carried_context (line : String) (f : Fault) : (f.context line).carried = f.carried := by
  cases f <;> rfl

@[simp] theorem help_context (line : String) (f : Fault) : (f.context line).help = f.help := by
  cases f <;> rfl

@[simp] theorem source_context (line : String) (f : Fault) : (f.context line).source = none := by
  cases f <;> rfl

def notice (f : Fault) : String :=
  "\n❌ " ++ f.text ++ "\n\n" ++
    match f.help with
    | some help => "💡 Help: " ++ help ++ "\n\n"
    | none => ""

end Fault
end ReleaseAudit

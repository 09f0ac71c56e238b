import ReleaseAudit.Git.Command
import ReleaseAudit.Text.Utf8

/-! A git that answers by rules. -/
namespace ReleaseAudit
namespace Git

structure Rule where
  args : List String
  status : Nat
  out : List UInt8
  err : List UInt8
  deriving DecidableEq, Repr

def subcommand : List String → List String
  | "-c" :: _ :: rest => subcommand rest
  | "-C" :: _ :: rest => subcommand rest
  | args => args

def Rule.reply (r : Rule) : Reply := ⟨r.status, Text.Utf8.decodeLossy r.out, Text.Utf8.decodeLossy r.err⟩

/-- The first rule that fits a command answers it. Where none fits, the command fails without a
word. -/
def scripted (rules : List Rule) : Git := fun command =>
  match rules.find? fun r => r.args.isPrefixOf (subcommand command.args) with
  | some r => .ok r.reply
  | none => .ok ⟨1, "", ""⟩

def missing : Git := fun _ => .error .notFound

end Git
end ReleaseAudit

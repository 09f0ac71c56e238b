import ReleaseAudit.Conversation
import ReleaseAudit.Git.Cache

/-! A git that may answer the same command differently each time, such as one whose repository
changes while it is asked. -/
namespace ReleaseAudit
namespace Git

structure Execution where
  command : Command
  outcome : Except Fault Reply

/-- Each answer may depend on all that happened before. -/
abbrev Oracle := List (Execution ⊕ Effect) → Git

namespace Oracle

def run (git : Oracle) (command : Command) : Conversation Execution Effect Reply := fun past =>
  .step (.inl ⟨command, (git past).answer command⟩) ((git past).answer command)

def shell (git : Oracle) : Shell (Conversation Execution Effect) := fun failure command past =>
  (git.run command past).context failure

def within (git : Oracle) (c : Clone) : Runner (Conversation Execution Effect) :=
  fun failure args => git.shell failure (c.command args)

def access (git : Oracle) (c : Clone) : Access (Conversation Execution Effect) :=
  (git.within c).access

end Oracle

def steady (git : Git) : Oracle := fun _ => git

/-- What others see of an event. -/
def seen : Execution ⊕ Effect → List Effect
  | .inl ⟨command, .ok _⟩ => [.ran command]
  | .inl ⟨_, .error _⟩ => []
  | .inr effect => [effect]

end Git
end ReleaseAudit

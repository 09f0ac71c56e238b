import ReleaseAudit.Conversation
import ReleaseAudit.Repository

/-! Dialogues with a repository that may answer the same question differently each time. -/
namespace ReleaseAudit

/-- What is asked of a repository. To get access to it is a question of its own. -/
inductive Action where
  | connect
  | ask (question : Call)
  deriving DecidableEq, Repr

abbrev Action.lookUp (reference : String) : Action := .ask (.lookUp reference)

def Action.isLookUp : Action → Bool
  | .ask (.lookUp _) => true
  | _ => false

abbrev Action.Answer : Action → Type
  | .ask (.lookUp _) => Option Commit
  | _ => Unit

structure Exchange where
  action : Action
  answer : Except Fault action.Answer

def Exchange.fault? (s : Exchange) : Option Fault :=
  match s.answer with
  | .ok _ => none
  | .error e => some e

/-- A conversation with a repository. -/
abbrev Dialogue (ε : Type) := Conversation Exchange ε

/-- The answers of a repository. Each of them may depend on all that happened before. -/
abbrev Responder (ε : Type) := List (Exchange ⊕ ε) → (action : Action) → Except Fault action.Answer

namespace Responder

variable {ε : Type}

def put (answer : Responder ε) (action : Action) : Dialogue ε action.Answer := fun past =>
  .step (.inl ⟨action, answer past action⟩) (answer past action)

def access (answer : Responder ε) : Access (Dialogue ε) where
  fetch := answer.put (.ask .fetch)
  ensureBranches names := answer.put (.ask (.ensureBranches names))
  lookUp reference := answer.put (.lookUp reference)

def connect (answer : Responder ε) : Dialogue ε (Access (Dialogue ε)) := do
  answer.put .connect
  return answer.access

end Responder

def Accessor.reply (a : Accessor) : (action : Action) → Except Fault action.Answer
  | .connect => .ok ()
  | .ask .fetch => a.fetch
  | .ask (.ensureBranches names) => a.ensureBranches names
  | .ask (.lookUp reference) => a.lookUp reference

def Accessor.resolves (a : Accessor) (reference : String) : Bool :=
  match a.lookUp reference with
  | .ok (some _) => true
  | _ => false

end ReleaseAudit

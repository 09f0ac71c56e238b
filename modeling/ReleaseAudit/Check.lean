import ReleaseAudit.Release
import ReleaseAudit.Repository

/-! Checks of a release index, and the walk that all of them share: look at one entry after the
other, gather what is found, and stop at the first violation if the run is to fail fast. -/
namespace ReleaseAudit

variable {ε α : Type} {m : Type → Type}

/-- What a rule can look at. The repository is there in the second stage only. -/
structure Scope (m : Type → Type) where
  index : ReleaseIndex
  mode : Mode
  repository : Option (Access m)

/-- A rule for release indexes. Running it fails only if it cannot be decided. -/
structure Rule (m : Type → Type) where
  name : String
  description : String
  stage : Stage
  run : Scope m → m CheckResult

abbrev CheckContext (ε : Type) := Scope (Traced ε)

abbrev Check (ε : Type) := Rule (Traced ε)

/-- What one entry gives rise to. -/
inductive Finding where
  | violation (v : Violation)
  | advisory (a : Advisory)
  deriving DecidableEq, Repr

def Finding.violation? : Finding → Option Violation
  | .violation v => some v
  | .advisory _ => none

def Finding.advisory? : Finding → Option Advisory
  | .violation _ => none
  | .advisory a => some a

def Finding.isViolation (f : Finding) : Bool := f.violation?.isSome

/-- The findings of `look` in the order of the items. In a run that fails fast the first violation
is the last finding. -/
def sweep [Monad m] (mode : Mode) (look : α → m (Option Finding)) : List α → m (List Finding)
  | [] => pure []
  | a :: as => do
    match ← look a with
    | none => sweep mode look as
    | some f =>
      if f.isViolation && mode.isFailFast then return [f]
      else
        let found ← sweep mode look as
        return f :: found

theorem sweep_cons [Monad m] [LawfulMonad m] (mode : Mode) (look : α → m (Option Finding)) (a : α)
    (as : List α) :
    sweep mode look (a :: as) = look a >>= fun found =>
      if found.any Finding.isViolation && mode.isFailFast then pure found.toList
      else sweep mode look as >>= fun rest => pure (found.toList ++ rest) := by
  rw [sweep]
  congr 1
  funext found
  cases found with
  | none => exact (bind_pure _).symm
  | some f => rfl

def CheckResult.ofFindings (checkName message : String) (found : List Finding) : CheckResult :=
  ⟨checkName, message, found.filterMap Finding.violation?, found.filterMap Finding.advisory?⟩

def Scope.requireRepository [Monad m] [Tracing m ε] (scope : Scope m) (checkName : String) :
    m (Access m) :=
  match scope.repository with
  | some repository => pure repository
  | none =>
    Tracing.fail
      (.ofText ("Check '" ++ checkName ++ "' needs repository access but none was provided"))

def Rule.ofIndex [Monad m] (name description passMessage : String)
    (entries : ReleaseIndex → List α) (judge : α → Option Violation) : Rule m where
  name := name
  description := description
  stage := .manifest
  run scope := do
    let found ← sweep scope.mode (fun a => pure ((judge a).map .violation)) (entries scope.index)
    return .ofFindings name passMessage found

/-- A rule that looks at every version with the repository at hand. -/
def Rule.ofVersions [Monad m] [Tracing m ε] (name description passMessage : String)
    (judge : Access m → Release × Version → m (Option Finding)) : Rule m where
  name := name
  description := description
  stage := .repository
  run scope := do
    let repository ← scope.requireRepository name
    let found ← sweep scope.mode (judge repository) scope.index.versions
    return .ofFindings name passMessage found

end ReleaseAudit

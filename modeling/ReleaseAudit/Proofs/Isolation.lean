import ReleaseAudit.Proofs.Conduct
import ReleaseAudit.Proofs.Reporting
import ReleaseAudit.Proofs.Steering

/-! What the commands of a run see of the settings and the variables of the user: next to nothing,
but for the question whether there is a clone. -/
namespace ReleaseAudit
namespace Isolation

open Git Steering

/-- A command that begins with safe settings and sees only a few of the variables that are set. -/
structure Isolated (environment : Environment) (command : Command) : Prop where
  settings : ["-c", "protocol.version=2", "-c", "advice.detachedHead=false",
    "-c", "core.quotePath=false"] <+: command.args
  mem_environment_iff : ∀ p, p ∈ command.environment ↔ p = ("GIT_TERMINAL_PROMPT", "0") ∨
    p.1 ∈ ["PATH", "HOME", "SSH_AUTH_SOCK", "GIT_SSH_COMMAND", "HTTPS_PROXY", "https_proxy",
      "HTTP_PROXY", "http_proxy", "NO_PROXY", "no_proxy"] ∧ environment.lookup p.1 = some p.2

theorem mem_forwarded_iff {environment : Environment} {p : String × String} :
    p ∈ forwarded environment ↔ p.1 ∈ forwardedNames ∧ environment.lookup p.1 = some p.2 := by
  unfold forwarded
  rw [List.mem_filterMap]
  constructor
  · rintro ⟨name, hname, hp⟩
    obtain ⟨value, hvalue, rfl⟩ := Option.map_eq_some_iff.mp hp
    exact ⟨hname, hvalue⟩
  · rintro ⟨hname, hvalue⟩
    exact ⟨p.1, hname, by rw [hvalue]; rfl⟩

theorem isolated_isolated (environment : Environment) (args : List String) :
    Isolated environment (isolated environment args) where
  settings := List.prefix_append _ _
  mem_environment_iff p := by
    change p ∈ forwarded environment ++ [("GIT_TERMINAL_PROMPT", "0")] ↔ _
    rw [List.mem_append, List.mem_singleton, mem_forwarded_iff, or_comm]
    rfl

/-- The commands that a run may issue. -/
def Allowed (m : Machine) (s : Settings) (command : Command) : Prop :=
  command = openCommand m.environment s.repository ∨ Isolated m.environment command

section Runs

variable {git : Oracle} {m : Machine} {s : Settings}

theorem keeping_connectWith (index : ReleaseIndex) :
    (keeping fun _ => Allowed m s).couples ((keeping fun _ => Allowed m s).Answers index)
      (Audit.connectWith git m s) (Audit.connectWith git m s) := by
  have hisolated : ∀ failure args, (keeping fun _ => Allowed m s).couples Eq
      (git.shell failure (isolated m.environment args))
      (git.shell failure (isolated m.environment args)) :=
    fun failure args => keeping_shell failure (.inr (isolated_isolated _ args))
  refine (keeping _).bind (Coupling.couples_openOrClone (fun failure => ?opened)
    (fun _ => keeping_effects _) (fun _ => keeping_effects _) (fun _ _ _ => hisolated _ _)) ?within
  case opened => exact keeping_shell failure (.inl rfl)
  case within =>
    rintro c _ ⟨rfl, rfl⟩
    exact (keeping _).pure (Coupling.answers_access (fun failure args => hisolated failure _)
      (fun _ => keeping_effects _) index)

theorem keeps_runWith (asJson : Bool) :
    Keeps (fun _ => Allowed m s) (Audit.runWith git m s asJson) :=
  keeping_iff.mp (Coupling.couples_conduct (fun _ => keeping_effects _) keeping_connectWith)

end Runs

theorem not_isolated_openCommand (environment : Environment) (path : Path) :
    ¬ Isolated environment (openCommand environment path) := by
  rintro ⟨⟨rest, hargs⟩, -⟩
  have hfirst : "-c" = "-C" := (List.cons.inj hargs).1
  revert hfirst
  decide

/-- Every command of a run is isolated from the settings and the variables of the user, but for the
question whether there is a clone. -/
theorem issued_isolated_iff (git : Oracle) (m : Machine) (s : Settings) (asJson : Bool)
    (past : Past) : ∀ command ∈ issued (Audit.runWith git m s asJson past).log,
      Isolated m.environment command ↔ command ≠ openCommand m.environment s.repository := by
  intro command hcommand
  constructor
  · rintro hisolated rfl
    exact not_isolated_openCommand _ _ hisolated
  · exact (allowed_of_heeds (keeps_runWith asJson past) command hcommand).resolve_left

section Samples

open Reporting (sampleFiles sampleSettings)

def sampleMachine : Machine :=
  ⟨sampleFiles.withFolder ["cache", ".git"], [("GIT_DIR", "/elsewhere")],
    fun _ => .ok ⟨0, "", ""⟩, false⟩

def sampleFetch : Command :=
  ⟨["-c", "protocol.version=2", "-c", "advice.detachedHead=false", "-c", "core.quotePath=false",
    "-C", "/cache", "fetch", "--prune", "--tags", "--force", "origin"],
    [("GIT_TERMINAL_PROMPT", "0")]⟩

theorem issued_isolated_iff_sample :
    sampleFetch ∈
      issued (Audit.runWith (steady sampleMachine.git) sampleMachine sampleSettings true []).log ∧
    Isolated [("GIT_DIR", "/elsewhere")] sampleFetch := by
  have hissued : sampleFetch ∈ issued
      (Audit.runWith (steady sampleMachine.git) sampleMachine sampleSettings true []).log := by
    decide +kernel
  have hisolated := issued_isolated_iff _ _ _ _ _ _ hissued
  exact ⟨hissued, hisolated.mpr (by decide)⟩

/-- The question whether there is a clone goes to the repository that the user has named. -/
theorem open_sees_user :
    let command : Command :=
      ⟨["-C", "/cache", "rev-parse", "--show-toplevel"], [("GIT_DIR", "/elsewhere")]⟩
    .ran command ∈ (Audit.run sampleMachine sampleSettings true).log ∧
    ¬ ["-c", "protocol.version=2", "-c", "advice.detachedHead=false",
      "-c", "core.quotePath=false"] <+: command.args ∧
    ¬ Isolated sampleMachine.environment command := by
  intro command
  refine ⟨?_, ?_, not_isolated_openCommand _ _⟩
  · decide +kernel
  · decide

end Samples

end Isolation
end ReleaseAudit

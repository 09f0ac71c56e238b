import ReleaseAudit.Git.Oracle
import ReleaseAudit.Proofs.Coupling

/-! A run over a clone is the conversation with its git, which looks at nothing but the command. -/
namespace ReleaseAudit

open Git

namespace Coupling

variable {m n : Type → Type} [Monad m] [Monad n] [Tracing m Effect] [Tracing n Effect]
  {C : Coupling m n}

theorem refl_ofExcept {α : Type} (result : Except Fault α) :
    C.couples Eq (Tracing.ofExcept result) (Tracing.ofExcept result) := by
  cases result with
  | error e => exact C.fail Eq e
  | ok a => exact C.refl_pure a

section Runners

variable {run : Runner m} {run' : Runner n}
  (hrun : ∀ failure args, C.couples Eq (run failure args) (run' failure args))
include hrun

theorem couples_resolve (reference : String) :
    C.couples Eq (run.resolve reference) (run'.resolve reference) := by
  unfold Runner.resolve
  split
  · exact C.refl_pure none
  · exact C.bind_eq (hrun _ _) fun _ => C.refl_pure _

theorem couples_branchesContaining (sha : String) :
    C.couples Eq (run.branchesContaining sha) (run'.branchesContaining sha) :=
  C.bind_eq (hrun _ _) fun _ => C.bind_eq (refl_ofExcept _) fun _ => C.refl_pure _

theorem couples_isPublished (sha : String) :
    C.couples Eq (run.isPublished sha) (run'.isPublished sha) :=
  C.bind_eq (hrun _ _) fun _ => C.bind_eq (refl_ofExcept _) fun _ => C.refl_pure _

theorem couples_lookUp (reference : String) :
    C.couples Eq (run.lookUp reference) (run'.lookUp reference) := by
  refine C.bind_eq (couples_resolve hrun reference) fun found => ?_
  cases found with
  | none => exact C.refl_pure none
  | some sha =>
    refine C.bind_eq (couples_isPublished hrun sha) fun known => ?_
    cases known with
    | false => exact C.refl_pure none
    | true => exact C.bind_eq (couples_branchesContaining hrun sha) fun _ => C.refl_pure _

theorem couples_ensureBranches (names : List String) :
    C.couples Eq (run.ensureBranches names) (run'.ensureBranches names) := by
  induction names with
  | nil => exact C.refl_pure ()
  | cons branch names ih =>
    have hknown : C.couples Eq (run.hasBranch branch) (run'.hasBranch branch) :=
      C.bind_eq (hrun _ _) fun _ => C.refl_pure _
    have hfetch : C.couples Eq (run.fetchBranch branch) (run'.fetchBranch branch) :=
      C.bind_eq (hrun _ _) fun _ => refl_ofExcept _
    refine C.bind_eq (C.bind_eq hknown fun known => ?_) fun _ => ih
    cases known with
    | false => exact hfetch
    | true => exact C.refl_pure ()

theorem answers_access (hnote : ∀ text,
    C.couples Eq (Tracing.emitAll [.noted text]) (Tracing.emitAll [.noted text]))
    (index : ReleaseIndex) :
    C.Answers index run.access run'.access where
  fetch := C.bind_eq (hnote _) fun _ => C.bind_eq (hrun _ _) fun _ =>
    C.bind_eq (refl_ofExcept _) fun _ => hnote _
  ensureBranches := couples_ensureBranches hrun _
  reference _ _ := couples_lookUp hrun _
  tag _ _ := couples_lookUp hrun _

end Runners
end Coupling

/-- A conversation beside what others see of it. -/
def viewing : Coupling (Conversation Execution Effect) (Traced Effect) :=
  .always (.translating seen)

theorem viewing_emitAll (effects : List Effect) :
    viewing.couples Eq (Tracing.emitAll effects) (Tracing.emitAll effects) := by
  intro past
  refine ⟨.ok rfl, ?_⟩
  change effects = (effects.map Sum.inr).flatMap seen
  induction effects with
  | nil => rfl
  | cons effect effects ih => exact congrArg (effect :: ·) ih

theorem viewing_shell (git : Git) (failure : String) (command : Command) :
    viewing.couples Eq ((steady git).shell failure command) (git.shell failure command) := by
  intro past
  have hresult : (Git.run git command).result = git.answer command := Traced.result_recorded _ _
  refine ⟨agree_eq_iff.mpr (congrArg (Except.mapError (Fault.context failure)) hresult.symm), ?_⟩
  change (Git.run git command).log = _
  unfold Git.run Oracle.shell Oracle.run steady
  cases git.answer command <;> rfl

theorem viewing_within (c : Clone) (failure : String) (args : List String) :
    viewing.couples Eq ((steady c.git).within c failure args) (c.run failure args) :=
  viewing_shell c.git failure (c.command args)

/-- All that others see of a run over a clone, and all that it comes to, is in the conversation. -/
theorem runChecks_repository (index : ReleaseIndex) (mode : Mode)
    (observe : CheckResult → List Effect) (c : Clone) :
    let talk := runChecks index mode observe (pure ((steady c.git).access c)) []
    runChecks index mode observe (pure c.repository) = ⟨talk.log.flatMap seen, talk.result⟩ := by
  intro talk
  have hconnect : viewing.couples (viewing.Answers index) (pure ((steady c.git).access c))
      (pure c.repository) :=
    viewing.pure
      (Coupling.answers_access (viewing_within c) (fun _ => viewing_emitAll _) index)
  obtain ⟨hresult, hlog⟩ :=
    Coupling.couples_runChecks (fun r => viewing_emitAll (observe r)) mode hconnect []
  exact congrArg₂ Traced.mk hlog (agree_eq_iff.mp hresult).symm

end ReleaseAudit

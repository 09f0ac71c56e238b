import ReleaseAudit.Audit
import ReleaseAudit.Proofs.Steadiness

/-! Whole audits side by side, from opening the clone to the last line, and the audit whose git may
answer the same command differently each time. -/
namespace ReleaseAudit

open Git

namespace Coupling

variable {n k : Type → Type} [Monad n] [Monad k] [Tracing n Effect] [Tracing k Effect]
  {C : Coupling n k} {m : Machine}

section Caches

variable {shell : Shell n} {shell' : Shell k} {path : Path}
  (hopen : ∀ failure, C.couples Eq (shell failure (openCommand m.environment path))
    (shell' failure (openCommand m.environment path)))
include hopen

theorem couples_openClone :
    C.couples (fun c c' => c = ⟨path, m.environment, m.git⟩ ∧ c' = c)
      (shell.openClone m path) (shell'.openClone m path) := by
  refine C.bind (hopen _) ?_
  rintro reply _ rfl
  unfold opened
  split
  · exact C.pure ⟨rfl, rfl⟩
  · split <;> exact C.fail _ _

variable
  (hmade : ∀ made : List Path, C.couples Eq (Tracing.emitAll (made.map .madeFolder))
    (Tracing.emitAll (made.map .madeFolder)))
  (hnoted : ∀ text, C.couples Eq (Tracing.emitAll [.noted text]) (Tracing.emitAll [.noted text]))
  {remote : Option String} {mainBranch : String}
  (hclone : ∀ failure r, remote = some r → C.couples Eq
    (shell failure (isolated m.environment (cloneArgs mainBranch r path)))
    (shell' failure (isolated m.environment (cloneArgs mainBranch r path))))

omit hopen in
include hmade in
theorem couples_makeParent (fs : FileSystem) (path : Path) :
    C.couples Eq (makeParent fs path) (makeParent fs path) := by
  unfold makeParent
  split
  · exact C.refl_pure ()
  · refine C.bind_eq (hmade _) fun _ => ?_
    split
    · exact C.refl_pure ()
    · exact C.fail _ _

include hmade hnoted hclone

theorem couples_openOrClone :
    C.couples (fun c c' => c = ⟨path, m.environment, m.git⟩ ∧ c' = c)
      (shell.openOrClone m path remote mainBranch)
      (shell'.openOrClone m path remote mainBranch) := by
  unfold Shell.openOrClone
  split
  · exact couples_openClone hopen
  · cases remote with
    | none => exact C.fail _ _
    | some remote =>
      refine C.bind (refl_ofExcept _) fun _ _ _ => ?_
      refine C.bind (couples_makeParent hmade m.files path) fun _ _ _ => ?_
      refine C.bind (hnoted _) fun _ _ _ => ?_
      refine C.bind (hclone _ _ rfl) ?_
      rintro reply _ rfl
      exact C.bind (refl_ofExcept _) fun _ _ _ => couples_openClone hopen

end Caches

/-- Audits get on alike if their repositories do. What is said may be another matter. -/
theorem couples_conduct {s : Settings} {asJson asJson' : Bool} {connect : n (Access n)}
    {connect' : k (Access k)}
    (hsay : ∀ lines : Bool → List String,
      C.couples Eq (Audit.sayAll (lines asJson)) (Audit.sayAll (lines asJson')))
    (hconnect : ∀ index, C.couples (C.Answers index) connect connect') :
    C.couples Eq (Audit.conduct m s asJson connect) (Audit.conduct m s asJson' connect') := by
  refine C.bind_eq (hsay fun b => (Audit.printerFor m b).info _) fun _ => ?_
  refine C.bind_eq (refl_ofExcept _) fun index => ?_
  refine C.bind_eq (hsay fun b => (Audit.printerFor m b).success _) fun _ => ?_
  have hobserve : ∀ r, C.couples Eq
      (Tracing.emitAll (((Audit.printerFor m asJson).report r).map .said))
      (Tracing.emitAll (((Audit.printerFor m asJson').report r).map .said)) :=
    fun r => hsay fun b => (Audit.printerFor m b).report r
  refine C.bind_eq (couples_runChecks hobserve s.mode (hconnect index)) fun results => ?_
  refine C.bind_eq (hsay fun b => Audit.reportLines b index s.mode results) fun _ => ?_
  refine C.bind_eq (refl_ofExcept _) fun _ => ?_
  exact hsay fun b => (Audit.printerFor m b).success _

end Coupling

theorem viewing_openOrClone (m : Machine) (path : Path) (remote : Option String)
    (mainBranch : String) :
    viewing.couples (fun c c' => c = ⟨path, m.environment, m.git⟩ ∧ c' = c)
      ((steady m.git).shell.openOrClone m path remote mainBranch)
      (Git.openOrClone m path remote mainBranch) :=
  Coupling.couples_openOrClone (fun _ => viewing_shell _ _ _) (fun _ => viewing_emitAll _)
    (fun _ => viewing_emitAll _) (fun _ _ _ => viewing_shell _ _ _)

theorem openOrClone_eq_seen (m : Machine) (path : Path) (remote : Option String)
    (mainBranch : String) :
    let talk := (steady m.git).shell.openOrClone m path remote mainBranch []
    Git.openOrClone m path remote mainBranch = ⟨talk.log.flatMap seen, talk.result⟩ := by
  intro talk
  obtain ⟨hresult, hlog⟩ := viewing_openOrClone m path remote mainBranch []
  have hsame : talk.result = (Git.openOrClone m path remote mainBranch).result := by
    change Agree _ talk.result _ at hresult
    revert hresult
    generalize talk.result = r, (Git.openOrClone m path remote mainBranch).result = r'
    rintro (⟨-, rfl⟩ | e) <;> rfl
  exact congrArg₂ Traced.mk hlog hsame.symm

namespace Audit

def connectWith (git : Oracle) (m : Machine) (s : Settings) :
    Conversation Execution Effect (Access (Conversation Execution Effect)) := do
  return git.access (← git.shell.openOrClone m s.repository s.remote s.mainBranch)

/-- An audit whose git may change its answers. That of the machine is not asked. -/
def runWith (git : Oracle) (m : Machine) (s : Settings) (asJson : Bool) :
    Conversation Execution Effect Unit :=
  conduct m s asJson (connectWith git m s)

/-- The audit of a machine is the one whose git answers as that of the machine always does. -/
theorem run_eq_seen (m : Machine) (s : Settings) (asJson : Bool) :
    let talk := runWith (steady m.git) m s asJson []
    run m s asJson = ⟨talk.log.flatMap seen, talk.result⟩ := by
  intro talk
  have hconnect : ∀ index, viewing.couples (viewing.Answers index)
      (connectWith (steady m.git) m s) (connect m s) := by
    intro index
    refine viewing.bind (viewing_openOrClone m _ _ _) ?_
    rintro _ _ ⟨rfl, rfl⟩
    exact viewing.pure
      (Coupling.answers_access (viewing_within _) (fun _ => viewing_emitAll _) index)
  have hrun : viewing.couples Eq (runWith (steady m.git) m s asJson) (run m s asJson) :=
    Coupling.couples_conduct (fun _ => viewing_emitAll _) hconnect
  obtain ⟨hresult, hlog⟩ := hrun []
  exact congrArg₂ Traced.mk hlog (agree_eq_iff.mp hresult).symm

end Audit
end ReleaseAudit

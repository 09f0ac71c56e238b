import ReleaseAudit.Check.Manifest
import ReleaseAudit.Check.Resolution

/-! Running a battery of checks, stage by stage. -/
namespace ReleaseAudit

variable {ε : Type} {m : Type → Type} [Monad m] [Tracing m ε]

def standardChecks : List (Rule m) :=
  [.baseVersion, .uniqueVersionNames, .rcOrder, .commitExistence, .branchMembership, .tagConsistency]

/-- Runs checks in order. `observe` sees each result before the next check starts. A run that fails
fast ends with the first check that does not pass. -/
def runInOrder (scope : Scope m) (observe : CheckResult → List ε) :
    List (Rule m) → m (List CheckResult)
  | [] => pure []
  | c :: cs => do
    let r ← c.run scope
    Tracing.emitAll (observe r)
    if !r.passed && scope.mode.isFailFast then return [r]
    else
      let rs ← runInOrder scope observe cs
      return r :: rs

theorem result_runInOrder_cons (ctx : CheckContext ε) (observe : CheckResult → List ε) (c : Check ε)
    (cs : List (Check ε)) :
    (runInOrder ctx observe (c :: cs)).result = (c.run ctx).result >>= fun r =>
      if !r.passed && ctx.mode.isFailFast then .ok [r]
      else (runInOrder ctx observe cs).result >>= fun rs => .ok (r :: rs) := by
  rw [runInOrder, Traced.result_bind]
  congr 1
  funext r
  rw [Traced.result_bind, apply_ite Traced.result, Traced.result_bind]
  rfl

def runStage (battery : List (Rule m)) (stage : Stage) (scope : Scope m)
    (observe : CheckResult → List ε) : m (List CheckResult) :=
  runInOrder scope observe (battery.filter (·.stage = stage))

/-- Runs all checks: first those of the index alone, then, once the repository is there and up to
date, those that ask it. A run that fails fast on the index does not touch the repository. -/
def runChecks (index : ReleaseIndex) (mode : Mode) (observe : CheckResult → List ε)
    (connect : m (Access m)) : m (List CheckResult) := do
  let first ← runStage standardChecks .manifest ⟨index, mode, none⟩ observe
  if first.any (!·.passed) && mode.isFailFast then return first
  else
    let repository ← connect
    repository.fetch
    repository.ensureBranches index.rcNames
    let second ← runStage standardChecks .repository ⟨index, mode, some repository⟩ observe
    return first ++ second

theorem result_runChecks (index : ReleaseIndex) (mode : Mode) (observe : CheckResult → List ε)
    (connect : Traced ε (Repository ε)) :
    (runChecks index mode observe connect).result =
      (runStage (standardChecks : List (Check ε)) .manifest ⟨index, mode, none⟩ observe).result >>=
        fun first =>
        if first.any (!·.passed) && mode.isFailFast then .ok first
        else connect.result >>= fun repository =>
          repository.fetch.result >>= fun _ =>
            (repository.ensureBranches index.rcNames).result >>= fun _ =>
              (runStage standardChecks .repository ⟨index, mode, some repository⟩ observe).result >>=
                fun second => .ok (first ++ second) := by
  rw [runChecks, Traced.result_bind]
  congr 1
  funext first
  simp only [apply_ite Traced.result, Traced.result_bind, Traced.result_pure]

def finish (violations : List Violation) (mode : Mode) : Except Fault Unit :=
  match violations, mode with
  | [], _ => .ok ()
  | v :: _, .failFast => .error (.violation v)
  | vs, .batch => .error (.violations vs)

end ReleaseAudit

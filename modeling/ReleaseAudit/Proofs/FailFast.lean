import ReleaseAudit.Proofs.Truncation
import ReleaseAudit.Repository.Dialogue

/-! A run that fails fast beside the batch run on the same repository: what both ask of it, and what
they come to. -/
namespace ReleaseAudit
namespace FailFast

open Truncation

variable {ε : Type}

/-- A run that records what it asks, beside what is observed of its results. Access to the
repository may fail, too. -/
def audit (index : ReleaseIndex) (mode : Mode) (observe : CheckResult → List ε)
    (connection : Except Fault Accessor) : Traced (Action ⊕ ε) (List CheckResult) :=
  runChecks index mode (fun r => (observe r).map .inr)
    (.step (.inl .connect) (connection.map fun a => a.traced fun question => .inl (.ask question)))

def calls (x : Traced (Action ⊕ ε) (List CheckResult)) : List Action := x.log.filterMap Sum.getLeft?

theorem stopsShort_audit (index : ReleaseIndex) (observe : CheckResult → List ε)
    (connection : Except Fault Accessor) :
    StopsShort Sum.getLeft? results (audit index .failFast observe connection)
      (audit index .batch observe connection) := by
  have hobserve : ∀ r, ((observe r).map Sum.inr).filterMap
      (Sum.getLeft? : Action ⊕ ε → Option Action) = [] := by
    intro r
    rw [List.filterMap_map]
    simp
  exact stopsShort_runChecks hobserve index _

theorem prefix_calls {x y : Traced (Action ⊕ ε) (List CheckResult)}
    (h : StopsShort Sum.getLeft? results x y) : calls x <+: calls y := by
  cases h with
  | together hsame =>
    subst hsame
    exact List.prefix_rfl
  | early _ _ hlog _ => exact hlog

theorem length_collectViolations_le {x y : Traced (Action ⊕ ε) (List CheckResult)}
    (h : StopsShort Sum.getLeft? results x y) {rs : List CheckResult} (hrs : x.result = .ok rs) :
    (collectViolations rs).length ≤ 1 := by
  cases h with
  | together _ h =>
    have hnone : collectViolations rs = [] := collectViolations_eq_nil_iff.mpr (h rs hrs)
    simp [hnone]
  | early hx hone _ _ =>
    obtain rfl := Except.ok.inj (hx.symm.trans hrs)
    exact Nat.le_of_eq hone

theorem result_of_error {x y : Traced (Action ⊕ ε) (List CheckResult)}
    (h : StopsShort Sum.getLeft? results x y) {e : Fault} (he : y.result = .error e) :
    x.result = .error e ∨ ∃ rs, x.result = .ok rs ∧ (collectViolations rs).length = 1 := by
  cases h with
  | together hsame => exact .inl (hsame ▸ he)
  | early hx hone _ _ => exact .inr ⟨_, hx, hone⟩

theorem finish_take_one (vs : List Violation) :
    finish (vs.take 1) .failFast = (vs.head?.elim (.ok ()) fun v => .error (.violation v)) := by
  cases vs <;> rfl

/-- A run that fails fast asks the first of the questions of the batch run. If the batch run comes
to results, it comes to the same ones, cut after the first that does not pass. If not, it fails in
the same way, unless it has come to a violation before. -/
theorem failFast_truncates_batch (index : ReleaseIndex) (observe : CheckResult → List ε)
    (connection : Except Fault Accessor) :
    calls (audit index .failFast observe connection) <+:
      calls (audit index .batch observe connection) ∧
    (∀ full, (audit index .batch observe connection).result = .ok full →
      ∃ short, (audit index .failFast observe connection).result = .ok short ∧
        CutAtFailure short full ∧
        finish (collectViolations short) .failFast =
          (collectViolations full).head?.elim (.ok ()) fun v => .error (.violation v)) ∧
    (∀ e, (audit index .batch observe connection).result = .error e →
      (audit index .failFast observe connection).result = .error e ∨
        ∃ short, (audit index .failFast observe connection).result = .ok short ∧
          (collectViolations short).length = 1) ∧
    ∀ short, (audit index .failFast observe connection).result = .ok short →
      (collectViolations short).length ≤ 1 := by
  have hshort := stopsShort_audit index observe connection
  refine ⟨prefix_calls hshort, fun full hfull => ?_, fun e he => result_of_error hshort he,
    fun short hs => length_collectViolations_le hshort hs⟩
  obtain ⟨short, hs, hcut⟩ := hshort.exists_cut hfull
  refine ⟨short, hs, hcut, ?_⟩
  rw [hcut.collectViolations_eq, finish_take_one]

end FailFast
end ReleaseAudit

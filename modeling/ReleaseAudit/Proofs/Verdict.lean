import ReleaseAudit.Proofs.BatchReport
import ReleaseAudit.Proofs.Truncation
import Mathlib.Data.List.Dedup

/-! The verdict of a run: it is positive exactly if every invariant of the index holds, whether the
run fails fast or not. -/
namespace ReleaseAudit

/-- The invariants of an index that do not depend on a repository. -/
structure ReleaseIndex.Consistent (index : ReleaseIndex) : Prop where
  hasBase : ∀ r ∈ index.releases, ∃ v ∈ r.versions, v.name = "base"
  distinctNames : ∀ r ∈ index.releases, (r.versions.map (·.name)).Pairwise (· ≠ ·)
  newestFirst : ∀ i j (_hij : i < j) (_hj : j < index.releases.length),
    index.releases[j].timestamp ≤ index.releases[i].timestamp

/-- All invariants of an index, for a repository that resolves references as `resolve` does. -/
structure ReleaseIndex.Sound (index : ReleaseIndex) (resolve : String → Option Commit) : Prop
    extends index.Consistent where
  resolved : ∀ r ∈ index.releases, ∀ v ∈ r.versions, ∃ commit, resolve v.reference = some commit
  onBranch : ∀ r ∈ index.releases, ∀ v ∈ r.versions, ∀ commit,
    resolve v.reference = some commit → r.rcName ∈ commit.branches.names
  tagged : ∀ r ∈ index.releases, ∀ v ∈ r.versions, ∀ tag,
    resolve (r.tagName v) = some tag → (resolve v.reference).map (·.sha) = some tag.sha

namespace Verdict

open BatchReport Truncation

variable {ε : Type} {index : ReleaseIndex} {resolve : String → Option Commit}

theorem missingBases_eq_nil_iff :
    missingBases index = [] ↔ ∀ r ∈ index.releases, ∃ v ∈ r.versions, v.name = "base" := by
  simp [missingBases]

theorem repeats_eq_nil_iff {r : Release} :
    repeats r = [] ↔ (r.versions.map (·.name)).Pairwise (· ≠ ·) := by
  have hcount := length_repeats_add_card r
  rw [List.card_toFinset] at hcount
  have hle := (List.dedup_sublist (r.versions.map (·.name))).length_le
  rw [List.length_map] at hle
  rw [← List.length_eq_zero_iff]
  constructor
  · intro h
    have heq : (r.versions.map (·.name)).dedup = r.versions.map (·.name) :=
      (List.dedup_sublist _).eq_of_length (by rw [List.length_map]; omega)
    exact List.dedup_eq_self.mp heq
  · intro h
    rw [List.dedup_eq_self.mpr h, List.length_map] at hcount
    omega

theorem duplicates_eq_nil_iff :
    duplicates index = [] ↔
      ∀ r ∈ index.releases, (r.versions.map (·.name)).Pairwise (· ≠ ·) := by
  simp only [duplicates, List.flatMap_eq_nil_iff, List.map_eq_nil_iff, repeats_eq_nil_iff]

theorem forall_zip_tail_iff_pairwise (rs : List Release) :
    (∀ p ∈ rs.zip rs.tail, p.2.timestamp ≤ p.1.timestamp) ↔
      rs.Pairwise fun a b => b.timestamp ≤ a.timestamp := by
  have htrans : Trans (fun a b : Release => b.timestamp ≤ a.timestamp)
      (fun a b : Release => b.timestamp ≤ a.timestamp)
      (fun a b : Release => b.timestamp ≤ a.timestamp) :=
    ⟨fun hab hbc => Timestamp.le_trans hbc hab⟩
  rw [← List.isChain_iff_pairwise]
  induction rs with
  | nil => simp
  | cons r rs ih =>
    cases rs with
    | nil => simp
    | cons s rs => simpa [List.isChain_cons_cons] using fun _ => ih

theorem inversions_eq_nil_iff :
    inversions index = [] ↔ ∀ i j (_hij : i < j) (_hj : j < index.releases.length),
      index.releases[j].timestamp ≤ index.releases[i].timestamp := by
  have hzip : inversions index = [] ↔
      ∀ p ∈ index.releases.zip index.releases.tail, p.2.timestamp ≤ p.1.timestamp := by
    simp [inversions, ← Timestamp.not_le]
  rw [hzip, forall_zip_tail_iff_pairwise, List.pairwise_iff_getElem]
  exact ⟨fun h i j hij hj => h i j (by omega) hj hij, fun h i j _ hj hij => h i j hij hj⟩

theorem consistent_iff : index.Consistent ↔
    missingBases index ++ duplicates index ++ inversions index = [] := by
  simp only [List.append_eq_nil_iff, missingBases_eq_nil_iff, duplicates_eq_nil_iff,
    inversions_eq_nil_iff]
  exact ⟨fun h => ⟨⟨h.hasBase, h.distinctNames⟩, h.newestFirst⟩,
    fun h => ⟨h.1.1, h.1.2, h.2⟩⟩

theorem filterMap_versions_eq_nil_iff {α : Type} {f : Release × Version → Option α} :
    index.versions.filterMap f = [] ↔ ∀ r ∈ index.releases, ∀ v ∈ r.versions, f (r, v) = none := by
  rw [List.filterMap_eq_nil_iff]
  constructor
  · intro h r hr v hv
    exact h (r, v) (ReleaseIndex.mem_versions.mpr ⟨hr, hv⟩)
  · rintro h ⟨r, v⟩ hp
    have hp := ReleaseIndex.mem_versions.mp hp
    exact h r hp.1 v hp.2

theorem unresolved?_eq_none_iff {r : Release} {v : Version} :
    unresolved? resolve (r, v) = none ↔ ∃ commit, resolve v.reference = some commit := by
  simp [unresolved?, Option.ne_none_iff_exists']

theorem stray?_eq_none_iff {r : Release} {v : Version} :
    stray? resolve (r, v) = none ↔
      ∀ commit, resolve v.reference = some commit → r.rcName ∈ commit.branches.names := by
  cases h : resolve v.reference <;> simp [stray?, h]

/-- A version without a commit has no drift, whatever its tag names. -/
theorem drift?_eq_none_iff {r : Release} {v : Version} :
    drift? resolve (r, v) = none ↔ ∀ tag commit, resolve (r.tagName v) = some tag →
      resolve v.reference = some commit → tag.sha = commit.sha := by
  cases ht : resolve (r.tagName v) <;> cases hc : resolve v.reference <;> simp [drift?, ht, hc]

/-- A report is free of violations exactly if all invariants hold. What is passed over because a
version has no commit is made up for by the check that reports it. -/
theorem collectViolations_report_eq_nil_iff :
    collectViolations (report resolve index) = [] ↔ index.Sound resolve := by
  have hall : collectViolations (report resolve index) =
      (missingBases index ++ duplicates index ++ inversions index) ++
        (index.versions.filterMap (unresolved? resolve) ++
          (index.versions.filterMap (stray? resolve) ++
            index.versions.filterMap (drift? resolve))) := by
    simp [report, manifestReport, repositoryReport]
  rw [hall, List.append_eq_nil_iff, ← consistent_iff, List.append_eq_nil_iff,
    List.append_eq_nil_iff]
  simp only [filterMap_versions_eq_nil_iff, unresolved?_eq_none_iff, stray?_eq_none_iff,
    drift?_eq_none_iff]
  constructor
  · rintro ⟨hc, hresolved, hbranch, hdrift⟩
    -- Drift is passed over for versions without a commit, and there are none of these.
    refine { hc with resolved := hresolved, onBranch := hbranch, tagged := ?_ }
    intro r hr v hv tag ht
    obtain ⟨commit, hcommit⟩ := hresolved r hr v hv
    rw [hcommit, Option.map_some, hdrift r hr v hv tag commit ht hcommit]
  · intro h
    refine ⟨h.toConsistent, h.resolved, h.onBranch, ?_⟩
    intro r hr v hv tag commit ht hcommit
    have htagged := h.tagged r hr v hv tag ht
    rw [hcommit, Option.map_some] at htagged
    exact (Option.some.inj htagged).symm

theorem finish_eq_ok_iff {vs : List Violation} {mode : Mode} :
    finish vs mode = .ok () ↔ vs = [] := by
  cases vs <;> cases mode <;> simp [finish]

theorem exists_results_of_batch {x y : Traced ε (List CheckResult)} {full : List CheckResult}
    (h : StopsShort (fun _ => (none : Option Empty)) results x y) (hy : y.result = .ok full) :
    ∃ short, x.result = .ok short ∧
      (collectViolations short = [] ↔ collectViolations full = []) := by
  obtain ⟨short, hshort, hcut⟩ := h.exists_cut hy
  refine ⟨short, hshort, ?_⟩
  rw [hcut.collectViolations_eq, List.take_eq_nil_iff]
  simp

theorem exists_results {repository : Repository ε} (mode : Mode) (observe : CheckResult → List ε)
    {connect : Traced ε (Repository ε)} (hconnect : connect.result = .ok repository)
    (h : Answers repository index resolve) :
    ∃ results, (runChecks index mode observe connect).result = .ok results ∧
      (collectViolations results = [] ↔ index.Sound resolve) := by
  have hbatch := result_runChecks_batch observe hconnect h
  cases mode with
  | batch => exact ⟨_, hbatch, collectViolations_report_eq_nil_iff⟩
  | failFast =>
    have hquiet : ∀ r, (observe r).filterMap (fun _ => (none : Option Empty)) = [] := by simp
    have hshort := stopsShort_runChecks hquiet index connect
    obtain ⟨results, hresults, hiff⟩ := exists_results_of_batch hshort hbatch
    exact ⟨results, hresults, hiff.trans collectViolations_report_eq_nil_iff⟩

/-- The verdict on an index is positive exactly if it is sound. So it does not depend on the mode. -/
theorem verdict_iff_sound (index : ReleaseIndex) (mode : Mode) (observe : CheckResult → List ε)
    {connect : Traced ε (Repository ε)} {repository : Repository ε}
    {resolve : String → Option Commit} (hconnect : connect.result = .ok repository)
    (h : Answers repository index resolve) :
    ∃ results, (runChecks index mode observe connect).result = .ok results ∧
      (finish (collectViolations results) mode = .ok () ↔ index.Sound resolve) := by
  obtain ⟨results, hresults, hiff⟩ := exists_results mode observe hconnect h
  exact ⟨results, hresults, finish_eq_ok_iff.trans hiff⟩

def soundIndex : ReleaseIndex :=
  ⟨[⟨"rc--2025-03-02_00-00", ⟨⟨2025, 3, 2, 0, 0⟩, by decide⟩, [⟨"base", "a"⟩, ⟨"fix", "b"⟩]⟩,
    ⟨"rc--2025-03-01_00-00", ⟨⟨2025, 3, 1, 0, 0⟩, by decide⟩, [⟨"base", "a"⟩]⟩]⟩

def soundStore : Store :=
  ((Store.empty.withCommit "a" ["rc--2025-03-01_00-00", "rc--2025-03-02_00-00"]).withCommit "b"
    ["rc--2025-03-02_00-00"]).withTag "release-2025-03-02_00-00-fix" "b"

theorem verdict_iff_sound_soundIndex :
    Answers (soundStore.accessor.traced id) soundIndex soundStore.lookUp ∧
    ∃ results, (runChecks soundIndex .failFast (fun _ => [])
        (pure (soundStore.accessor.traced id))).result = .ok results ∧
      finish (collectViolations results) .failFast = .ok () := by
  have h : Answers (soundStore.accessor.traced id) soundIndex soundStore.lookUp :=
    answers_of_store id rfl (by decide)
  have hsound : soundIndex.Sound soundStore.lookUp :=
    collectViolations_report_eq_nil_iff.mp (by decide +kernel)
  have hconnect : (pure (soundStore.accessor.traced id) : Traced Call (Repository Call)).result =
      .ok (soundStore.accessor.traced id) := rfl
  obtain ⟨results, hresults, hiff⟩ :=
    verdict_iff_sound soundIndex .failFast (fun _ => []) hconnect h
  exact ⟨h, results, hresults, hiff.mpr hsound⟩

end Verdict
end ReleaseAudit

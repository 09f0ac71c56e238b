import ReleaseAudit.Check.Battery
import ReleaseAudit.Repository.Store
import Mathlib.Data.Finset.Card

/-! What a batch run reports: the violations of every invariant, one check after the other, each in
the order of the document. -/
namespace ReleaseAudit
namespace BatchReport

variable {ε α : Type}

/-- The repository is up to date, has the branches of the index, and resolves references as
`resolve` does. -/
structure Answers (repository : Repository ε) (index : ReleaseIndex)
    (resolve : String → Option Commit) : Prop where
  fetch : repository.fetch.result = .ok ()
  ensureBranches : (repository.ensureBranches index.rcNames).result = .ok ()
  lookUp : ∀ reference, (repository.lookUp reference).result = .ok (resolve reference)

theorem answers_of_store (record : Call → ε) {s : Store} {index : ReleaseIndex}
    (hfetch : s.failingFetch = false)
    (hbranches : ∀ name ∈ index.rcNames, name ∈ s.remoteBranches) :
    Answers (s.accessor.traced record) index s.lookUp where
  fetch := by simp [Accessor.traced, Store.accessor, Store.fetch, hfetch]
  ensureBranches := by
    have h : index.rcNames.find? (fun name => !s.remoteBranches.contains name) = none := by
      simpa using hbranches
    simp only [Accessor.traced, Store.accessor, Store.ensureBranches, Traced.result_step, h]
  lookUp _ := rfl

/-- A violation for every release without a version of the reserved name. -/
def missingBases (index : ReleaseIndex) : List Violation :=
  index.releases.filterMap fun r =>
    if ∃ v ∈ r.versions, v.name = "base" then none else some (.missingBaseVersion r.rcName)

/-- The version entries whose name an earlier entry of the release has. -/
def repeats (r : Release) : List Version :=
  (r.versions.zipIdx.filter fun (v, i) => decide (∃ w ∈ r.versions.take i, w.name = v.name)).map
    (·.1)

def duplicates (index : ReleaseIndex) : List Violation :=
  index.releases.flatMap fun r =>
    (repeats r).map fun v => .duplicateVersionName r.rcName v.name

/-- A violation for every two adjacent releases of which the second one is newer. -/
def inversions (index : ReleaseIndex) : List Violation :=
  (index.releases.zip index.releases.tail).filterMap fun p =>
    if p.1.timestamp < p.2.timestamp then some (.rcOutOfOrder p.1.rcName p.2.rcName) else none

section Resolution

variable (resolve : String → Option Commit) (p : Release × Version) (index : ReleaseIndex)

def unresolved? : Option Violation :=
  if resolve p.2.reference = none then some (.commitNotFound p.2.reference) else none

/-- The commit of a version is not on the branch of its release. -/
def stray? : Option Violation := do
  let commit ← resolve p.2.reference
  if p.1.rcName ∈ commit.branches.names then none
  else some (.notOnBranch p.2.reference p.1.rcName commit.branches.names)

/-- The tag of a version names another commit than the version. -/
def drift? : Option Violation := do
  let tag ← resolve (p.1.tagName p.2)
  let commit ← resolve p.2.reference
  if tag.sha = commit.sha then none
  else some (.tagDrift (p.1.tagName p.2) tag.sha commit.sha)

def missingTag? : Option Advisory :=
  if resolve (p.1.tagName p.2) = none then some (.tagMissing (p.1.tagName p.2)) else none

def manifestReport : List CheckResult :=
  [⟨"base-version", "All releases have a base version", missingBases index, []⟩,
    ⟨"unique-version-names", "All version names are unique within the respective releases",
      duplicates index, []⟩,
    ⟨"rc-order", "All RCs are ordered descending by date", inversions index, []⟩]

def repositoryReport : List CheckResult :=
  [⟨"commit-existence", "All commits exist", index.versions.filterMap (unresolved? resolve), []⟩,
    ⟨"branch-membership", "All versions are on the correct branches",
      index.versions.filterMap (stray? resolve), []⟩,
    ⟨"tag-consistency", "Finished tag consistency check", index.versions.filterMap (drift? resolve),
      index.versions.filterMap (missingTag? resolve)⟩]

/-- The results of a batch run, in the order of the checks. -/
def report : List CheckResult := manifestReport index ++ repositoryReport resolve index

end Resolution

theorem result_sweep {look : α → Traced ε (Option Finding)} {found : α → Option Finding}
    {as : List α} (h : ∀ a ∈ as, (look a).result = .ok (found a)) :
    (sweep .batch look as).result = .ok (as.filterMap found) := by
  induction as with
  | nil => rfl
  | cons a as ih =>
    have ha := h a (by simp)
    have ih := ih fun b hb => h b (by simp [hb])
    rw [sweep_cons, Traced.bind_of_ok ha]
    simp only [Mode.isFailFast, Bool.and_false, Bool.false_eq_true, if_false]
    rw [Traced.bind_of_ok ih]
    cases hf : found a <;> simp [hf]

theorem ofFindings_violations (name message : String) (judge : α → Option Violation)
    (as : List α) :
    CheckResult.ofFindings name message (as.filterMap fun a => (judge a).map .violation) =
      ⟨name, message, as.filterMap judge, []⟩ := by
  have hv : (fun a => ((judge a).map Finding.violation).bind Finding.violation?) = judge := by
    funext a
    cases judge a <;> rfl
  have ha : (fun a => ((judge a).map Finding.violation).bind Finding.advisory?) = fun _ => none := by
    funext a
    cases judge a <;> rfl
  simp [CheckResult.ofFindings, List.filterMap_filterMap, hv, ha]

theorem result_ofIndex (name description passMessage : String)
    (entries : ReleaseIndex → List α) (judge : α → Option Violation) (index : ReleaseIndex)
    (repository : Option (Repository ε)) :
    ((Rule.ofIndex name description passMessage entries judge).run
      ⟨index, .batch, repository⟩).result =
        .ok ⟨name, passMessage, (entries index).filterMap judge, []⟩ := by
  simp only [Rule.ofIndex]
  rw [Traced.bind_of_ok (result_sweep fun _ _ => rfl)]
  exact congrArg Except.ok (ofFindings_violations ..)

theorem result_ofVersions (name description passMessage : String)
    {judge : Repository ε → Release × Version → Traced ε (Option Finding)}
    (found : Release × Version → Option Finding) {index : ReleaseIndex}
    {repository : Repository ε} (h : ∀ p, (judge repository p).result = .ok (found p)) :
    ((Rule.ofVersions name description passMessage judge).run
      ⟨index, .batch, some repository⟩).result =
        .ok (.ofFindings name passMessage (index.versions.filterMap found)) := by
  simp only [Rule.ofVersions, Scope.requireRepository, Traced.pure_bind]
  rw [Traced.bind_of_ok (result_sweep fun p _ => h p)]
  rfl

theorem result_baseVersion (index : ReleaseIndex) (repository : Option (Repository ε)) :
    (Rule.baseVersion.run ⟨index, .batch, repository⟩).result =
      .ok ⟨"base-version", "All releases have a base version", missingBases index, []⟩ := by
  rw [Rule.baseVersion, result_ofIndex]
  simp [missingBases, Version.isBase_iff]

theorem result_rcOrder (index : ReleaseIndex) (repository : Option (Repository ε)) :
    (Rule.rcOrder.run ⟨index, .batch, repository⟩).result =
      .ok ⟨"rc-order", "All RCs are ordered descending by date", inversions index, []⟩ := by
  rw [Rule.rcOrder, result_ofIndex]
  simp [inversions, Rule.neighbours, ← Timestamp.not_le]

theorem markRepeats_eq {earlier : List String} {before : List Version} (vs : List Version)
    (h : ∀ name, name ∈ earlier ↔ ∃ w ∈ before, w.name = name) :
    Rule.markRepeats earlier vs = (vs.zipIdx before.length).map fun (v, i) =>
      (v, decide (∃ w ∈ (before ++ vs).take i, w.name = v.name)) := by
  -- The names that are marked as seen are those of the entries in `before`.
  induction vs generalizing earlier before with
  | nil => rfl
  | cons v vs ih =>
    have hnext : ∀ name, name ∈ v.name :: earlier ↔ ∃ w ∈ before ++ [v], w.name = name := by
      intro name
      simp only [List.mem_cons, h, List.mem_append, List.not_mem_nil, or_false, or_and_right,
        exists_or, exists_eq_left]
      rw [or_comm, eq_comm]
    rw [Rule.markRepeats, ih hnext]
    simp [h]

theorem repeats_eq (r : Release) :
    repeats r = ((Rule.markRepeats [] r.versions).filter (·.2)).map (·.1) := by
  have h : ∀ name, name ∈ ([] : List String) ↔ ∃ w ∈ ([] : List Version), w.name = name := by simp
  rw [markRepeats_eq r.versions h]
  simp [repeats, List.filter_map, Function.comp_def]

theorem length_marked_add_card (earlier : List String) (vs : List Version) :
    ((Rule.markRepeats earlier vs).filter (·.2)).length +
      ((vs.map (·.name)).toFinset \ earlier.toFinset).card = vs.length := by
  induction vs generalizing earlier with
  | nil => simp [Rule.markRepeats]
  | cons v vs ih =>
    have ih := ih (v.name :: earlier)
    rw [List.toFinset_cons] at ih
    rw [Rule.markRepeats, List.map_cons, List.toFinset_cons, List.length_cons, ← ih]
    by_cases hv : v.name ∈ earlier
    · have hmem : v.name ∈ earlier.toFinset := by simpa using hv
      rw [Finset.insert_sdiff_of_mem _ hmem, Finset.insert_eq_of_mem hmem]
      simp [hv]
      omega
    · have hnew : insert v.name (vs.map (·.name)).toFinset \ earlier.toFinset =
          insert v.name ((vs.map (·.name)).toFinset \ insert v.name earlier.toFinset) := by
        ext name
        by_cases hname : name = v.name <;> simp [hname, hv]
      rw [hnew, Finset.card_insert_of_notMem (by simp)]
      simp [hv]
      omega

theorem length_repeats_add_card (r : Release) :
    (repeats r).length + (r.versions.map (·.name)).toFinset.card = r.versions.length := by
  have h := length_marked_add_card [] r.versions
  simpa [repeats_eq] using h

theorem result_uniqueVersionNames (index : ReleaseIndex) (repository : Option (Repository ε)) :
    (Rule.uniqueVersionNames.run ⟨index, .batch, repository⟩).result =
      .ok ⟨"unique-version-names", "All version names are unique within the respective releases",
        duplicates index, []⟩ := by
  rw [Rule.uniqueVersionNames, result_ofIndex]
  have h : (Rule.markedVersions index).filterMap (fun m =>
      if m.2.2 then some (.duplicateVersionName m.1.rcName m.2.1.name) else none) =
      duplicates index := by
    rw [Rule.markedVersions, List.filterMap_flatMap, duplicates]
    congr 1
    funext r
    rw [List.filterMap_map, repeats_eq, List.map_map, ← List.filterMap_eq_map, List.filterMap_filter]
    rfl
  rw [h]

section Resolution

variable {index : ReleaseIndex} {repository : Repository ε} {resolve : String → Option Commit}

theorem result_commitExistence (h : Answers repository index resolve) :
    (Rule.commitExistence.run ⟨index, .batch, some repository⟩).result =
      .ok ⟨"commit-existence", "All commits exist", index.versions.filterMap (unresolved? resolve),
        []⟩ := by
  rw [Rule.commitExistence, result_ofVersions _ _ _ fun p => (unresolved? resolve p).map .violation,
    ofFindings_violations]
  rintro ⟨r, v⟩
  simp only
  rw [Traced.bind_of_ok (h.lookUp _), unresolved?]
  cases resolve v.reference <;> rfl

theorem result_branchMembership (h : Answers repository index resolve) :
    (Rule.branchMembership.run ⟨index, .batch, some repository⟩).result =
      .ok ⟨"branch-membership", "All versions are on the correct branches",
        index.versions.filterMap (stray? resolve), []⟩ := by
  rw [Rule.branchMembership, result_ofVersions _ _ _ fun p => (stray? resolve p).map .violation,
    ofFindings_violations]
  rintro ⟨r, v⟩
  simp only
  rw [Traced.bind_of_ok (h.lookUp _), stray?]
  cases resolve v.reference with
  | none => rfl
  | some commit =>
    by_cases hbranch : r.rcName ∈ commit.branches.names <;>
      simp [Commit.isOnBranch, hbranch, Traced.result_pure]

def tagFinding? (resolve : String → Option Commit) (p : Release × Version) : Option Finding :=
  if resolve (p.1.tagName p.2) = none then some (.advisory (.tagMissing (p.1.tagName p.2)))
  else (drift? resolve p).map .violation

theorem violation?_tagFinding? (p : Release × Version) :
    (tagFinding? resolve p).bind Finding.violation? = drift? resolve p := by
  unfold tagFinding?
  cases htag : resolve (p.1.tagName p.2) with
  | none => simp [drift?, htag, Finding.violation?]
  | some tag => cases drift? resolve p <;> rfl

theorem advisory?_tagFinding? (p : Release × Version) :
    (tagFinding? resolve p).bind Finding.advisory? = missingTag? resolve p := by
  unfold tagFinding? missingTag?
  cases resolve (p.1.tagName p.2) with
  | none => rfl
  | some tag => cases drift? resolve p <;> rfl

theorem result_tagConsistency (h : Answers repository index resolve) :
    (Rule.tagConsistency.run ⟨index, .batch, some repository⟩).result =
      .ok ⟨"tag-consistency", "Finished tag consistency check",
        index.versions.filterMap (drift? resolve), index.versions.filterMap (missingTag? resolve)⟩ := by
  rw [Rule.tagConsistency, result_ofVersions _ _ _ (tagFinding? resolve)]
  · simp only [CheckResult.ofFindings, List.filterMap_filterMap, violation?_tagFinding?,
      advisory?_tagFinding?]
  · rintro ⟨r, v⟩
    simp only
    rw [Traced.bind_of_ok (h.lookUp _), tagFinding?, drift?]
    cases resolve (r.tagName v) with
    | none => rfl
    | some tag =>
      simp only
      rw [Traced.bind_of_ok (h.lookUp _)]
      cases resolve v.reference with
      | none => rfl
      | some commit =>
        by_cases hsha : tag.sha = commit.sha <;> simp [hsha]

theorem result_runInOrder {ctx : CheckContext ε} (hmode : ctx.mode = .batch)
    (observe : CheckResult → List ε) {cs : List (Check ε)} {rs : List CheckResult}
    (h : List.Forall₂ (fun c r => (c.run ctx).result = .ok r) cs rs) :
    (runInOrder ctx observe cs).result = .ok rs := by
  induction h with
  | nil => rfl
  | cons hr _ ih =>
    rw [result_runInOrder_cons, hr, ih]
    simp [hmode, Mode.isFailFast, bind, Except.bind]

theorem result_manifestStage_batch (index : ReleaseIndex) (observe : CheckResult → List ε) :
    (runStage (standardChecks : List (Check ε)) .manifest ⟨index, .batch, none⟩ observe).result =
      .ok (manifestReport index) :=
  result_runInOrder rfl observe (.cons (result_baseVersion index none)
    (.cons (result_uniqueVersionNames index none) (.cons (result_rcOrder index none) .nil)))

theorem result_repositoryStage_batch (observe : CheckResult → List ε)
    (h : Answers repository index resolve) :
    (runStage standardChecks .repository ⟨index, .batch, some repository⟩ observe).result =
      .ok (repositoryReport resolve index) :=
  result_runInOrder rfl observe (.cons (result_commitExistence h)
    (.cons (result_branchMembership h) (.cons (result_tagConsistency h) .nil)))

theorem result_runChecks_batch (observe : CheckResult → List ε)
    {connect : Traced ε (Repository ε)} (hconnect : connect.result = .ok repository)
    (h : Answers repository index resolve) :
    (runChecks index .batch observe connect).result = .ok (report resolve index) := by
  rw [result_runChecks, result_manifestStage_batch, hconnect]
  simp only [bind, Except.bind, Mode.isFailFast, Bool.and_false, Bool.false_eq_true, if_false,
    h.fetch, h.ensureBranches, result_repositoryStage_batch observe h, report]

/-- Branches that a stray commit is on are listed in ascending order, and the branch of the release
is not among them. -/
theorem found_of_stray {p : Release × Version} {reference branch : String} {found : List String}
    (h : stray? resolve p = some (.notOnBranch reference branch found)) :
    found.Pairwise (· < ·) ∧ branch ∉ found := by
  unfold stray? at h
  obtain ⟨commit, -, h⟩ := Option.bind_eq_some_iff.mp h
  split at h
  · cases h
  · next hbranch =>
    cases h
    exact ⟨commit.branches.ascending, hbranch⟩

/-- A batch run loses no violation, adds none and keeps their order: check after check, each in the
order of the document. Entries whose reference names no commit are left to the first of the checks
that look for it. -/
theorem runChecks_batch_exact (index : ReleaseIndex) (observe : CheckResult → List ε)
    {connect : Traced ε (Repository ε)} (hconnect : connect.result = .ok repository)
    (h : Answers repository index resolve) :
    (runChecks index .batch observe connect).result = .ok (report resolve index) ∧
    (report resolve index).map (·.checkName) =
      ["base-version", "unique-version-names", "rc-order", "commit-existence",
        "branch-membership", "tag-consistency"] ∧
    collectViolations (report resolve index) =
      missingBases index ++ duplicates index ++ inversions index ++
        index.versions.filterMap (unresolved? resolve) ++ index.versions.filterMap (stray? resolve) ++
        index.versions.filterMap (drift? resolve) ∧
    (report resolve index).flatMap (·.advisories) =
      index.versions.filterMap (missingTag? resolve) ∧
    (∀ r ∈ index.releases,
      (repeats r).length + (r.versions.map (·.name)).toFinset.card = r.versions.length) ∧
    ∀ reference branch found,
      .notOnBranch reference branch found ∈ collectViolations (report resolve index) →
        found.Pairwise (· < ·) ∧ branch ∉ found := by
  have hall : collectViolations (report resolve index) =
      missingBases index ++ duplicates index ++ inversions index ++
        index.versions.filterMap (unresolved? resolve) ++ index.versions.filterMap (stray? resolve) ++
        index.versions.filterMap (drift? resolve) := by
    simp [report, manifestReport, repositoryReport]
  refine ⟨result_runChecks_batch observe hconnect h, rfl, hall,
    by simp [report, manifestReport, repositoryReport],
    fun r _ => length_repeats_add_card r, fun reference branch found hv => ?_⟩
  simp only [hall, List.mem_append] at hv
  -- Only one of the six lists has violations of this kind.
  rcases hv with ((((hv | hv) | hv) | hv) | hv) | hv
  · simp [missingBases] at hv
  · simp [duplicates] at hv
  · simp [inversions] at hv
  · simp [unresolved?] at hv
  · obtain ⟨p, -, hp⟩ := List.mem_filterMap.mp hv
    exact found_of_stray hp
  · simp [drift?, Option.bind_eq_some_iff] at hv

end Resolution

def flawedIndex : ReleaseIndex :=
  ⟨[⟨"rc--2024-01-01_00-00", ⟨⟨2024, 1, 1, 0, 0⟩, by decide⟩, [⟨"fix", "a"⟩, ⟨"fix", "b"⟩]⟩,
    ⟨"rc--2024-01-02_00-00", ⟨⟨2024, 1, 2, 0, 0⟩, by decide⟩, [⟨"base", "c"⟩]⟩]⟩

def flawedStore : Store :=
  ((Store.empty.withCommit "a" ["rc--2024-01-01_00-00"]).withCommit "b"
    ["rc--2024-01-02_00-00"]).withTag "release-2024-01-01_00-00-fix" "b"

theorem runChecks_batch_flawed :
    Answers (flawedStore.accessor.traced id) flawedIndex flawedStore.lookUp ∧
    (runChecks flawedIndex .batch (fun _ => []) (pure (flawedStore.accessor.traced id))).result =
      .ok (report flawedStore.lookUp flawedIndex) ∧
    collectViolations (report flawedStore.lookUp flawedIndex) =
      [.missingBaseVersion "rc--2024-01-01_00-00",
        .duplicateVersionName "rc--2024-01-01_00-00" "fix",
        .rcOutOfOrder "rc--2024-01-01_00-00" "rc--2024-01-02_00-00", .commitNotFound "c",
        .notOnBranch "b" "rc--2024-01-01_00-00" ["rc--2024-01-02_00-00"],
        .tagDrift "release-2024-01-01_00-00-fix" "b" "a"] := by
  have h : Answers (flawedStore.accessor.traced id) flawedIndex flawedStore.lookUp :=
    answers_of_store id rfl (by decide)
  exact ⟨h, (runChecks_batch_exact flawedIndex _ rfl h).1, by decide +kernel⟩

end BatchReport
end ReleaseAudit

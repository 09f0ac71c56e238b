import ReleaseAudit.Check.Battery

/-! A run that fails fast comes to the results of a batch run, cut after the first that does not
pass. Of that one it keeps the first violation. Up to there it has done the same. -/
namespace ReleaseAudit
namespace Truncation

variable {ε κ α β : Type}

/-- What stopping at the first hit makes of a value. -/
structure Cutting (α : Type) where
  /-- Nothing to stop at. -/
  clean : α → Prop
  /-- What is left by a computation that stopped. -/
  stopped : α → Prop
  /-- The first value is what the second one is cut to. -/
  cuts : α → α → Prop

/-- A computation that stops at the first hit, beside one that goes on. Without a hit they are the
same. After a hit the second one may fail, but not the first, and of the events that count the first
one has a part of the second one's. -/
inductive StopsShort (keep : ε → Option κ) (c : Cutting α) (x y : Traced ε α) : Prop
  | together (hsame : x = y) (h : ∀ a, x.result = .ok a → c.clean a)
  | early {a : α} (hx : x.result = .ok a) (ha : c.stopped a)
    (hlog : x.log.filterMap keep <+: y.log.filterMap keep) (h : ∀ b, y.result = .ok b → c.cuts a b)

namespace StopsShort

variable {keep : ε → Option κ} {c : Cutting α} {d : Cutting β}

theorem ok {a : α} (h : c.clean a) : StopsShort keep c (pure a) (pure a) :=
  .together rfl fun b hb => by cases hb; exact h

theorem bind_same (x : Traced ε α) {f g : α → Traced ε β}
    (h : ∀ a, x.result = .ok a → StopsShort keep d (f a) (g a)) :
    StopsShort keep d (x >>= f) (x >>= g) := by
  cases hx : x.result with
  | error e =>
    rw [Traced.bind_of_error hx, Traced.bind_of_error hx]
    exact .together rfl nofun
  | ok a =>
    rw [Traced.bind_of_ok hx, Traced.bind_of_ok hx]
    cases h a hx with
    | together hsame hclean =>
      rw [← hsame]
      exact .together rfl hclean
    | early hf hb hlog hcut =>
      refine .early hf hb ?_ hcut
      rw [List.filterMap_append, List.filterMap_append]
      exact (List.prefix_append_right_inj _).mpr hlog

/-- After a stop nothing that counts is done any more. -/
theorem bind {x y : Traced ε α} {f g : α → Traced ε β} (h : StopsShort keep c x y)
    (hclean : ∀ a, c.clean a → StopsShort keep d (f a) (g a))
    (hstop : ∀ a, c.stopped a → ∃ b, (f a).result = .ok b ∧ (f a).log.filterMap keep = [] ∧
      d.stopped b ∧ ∀ a' b', c.cuts a a' → (g a').result = .ok b' → d.cuts b b') :
    StopsShort keep d (x >>= f) (y >>= g) := by
  cases h with
  | together hsame h =>
    subst hsame
    exact bind_same x fun a ha => hclean a (h a ha)
  -- After a stop nothing that counts is done any more, whatever the other one still does.
  | @early a hx ha hlog h =>
    obtain ⟨b, hb, hquiet, hstopped, hcuts⟩ := hstop a ha
    have hkept : (x >>= f).log.filterMap keep = x.log.filterMap keep := by
      rw [Traced.bind_of_ok hx, List.filterMap_append, hquiet, List.append_nil]
    refine .early (by rw [Traced.bind_of_ok hx, hb]) hstopped ?_ fun b' hb' => ?_
    · rw [hkept]
      cases hy : y.result with
      | error e => rwa [Traced.bind_of_error hy]
      | ok a' =>
        rw [Traced.bind_of_ok hy, List.filterMap_append]
        exact hlog.trans (List.prefix_append _ _)
    · obtain ⟨a', ha', hg⟩ := Traced.result_bind_eq_ok.mp hb'
      exact hcuts a' b' (h a' ha') hg

end StopsShort

def findings : Cutting (List Finding) where
  clean fs := ∀ f ∈ fs, f.isViolation = false
  stopped fs := ∃ before v, fs = before ++ [.violation v] ∧ ∀ f ∈ before, f.isViolation = false
  cuts fs gs := fs <+: gs

theorem stopsShort_sweep (keep : ε → Option κ) (look : α → Traced ε (Option Finding))
    (as : List α) : StopsShort keep findings (sweep .failFast look as) (sweep .batch look as) := by
  induction as with
  | nil => exact .ok (by simp [findings])
  | cons a as ih =>
    rw [sweep_cons, sweep_cons]
    refine .bind_same _ fun found _ => ?_
    simp only [Mode.isFailFast, Bool.and_true, Bool.and_false, Bool.false_eq_true, if_false]
    split
    · next hit =>
      obtain ⟨v, rfl⟩ : ∃ v, found = some (.violation v) := by
        rcases found with _ | (v | v) <;> simp [Finding.isViolation, Finding.violation?] at hit ⊢
      refine .early rfl ⟨[], v, rfl, by simp⟩ List.nil_prefix fun gs hgs => ?_
      obtain ⟨rest, -, hrest⟩ := Traced.result_bind_eq_ok.mp hgs
      cases hrest
      exact List.prefix_append _ _
    · next hit =>
      have hfound : ∀ f ∈ found.toList, f.isViolation = false := by
        cases found <;> simp_all
      refine ih.bind (fun rest hrest => .ok ?_) ?_
      · intro f hf
        exact (List.mem_append.mp hf).elim (hfound f) (hrest f)
      · rintro rest ⟨before, v, rfl, hbefore⟩
        refine ⟨_, rfl, rfl, ⟨found.toList ++ before, v, by simp, ?_⟩, ?_⟩
        · intro f hf
          exact (List.mem_append.mp hf).elim (hfound f) (hbefore f)
        · intro all fs hcut hfs
          cases hfs
          exact (List.prefix_append_right_inj _).mpr hcut

/-- A result cut to its first violation. -/
structure CutTo (r s : CheckResult) : Prop where
  checkName : r.checkName = s.checkName
  message : r.message = s.message
  violations : r.violations = s.violations.take 1
  advisories : r.advisories <+: s.advisories

/-- Only a result with a violation is cut to one that has one. -/
theorem CutTo.passed_eq_false {r s : CheckResult} (h : CutTo r s) (hr : r.violations.length = 1) :
    s.passed = false := by
  refine CheckResult.passed_eq_false_iff.mpr fun hs => ?_
  simp [h.violations, hs] at hr

def result : Cutting CheckResult where
  clean r := r.passed
  stopped r := r.violations.length = 1
  cuts := CutTo

theorem filterMap_violation_eq_nil {fs : List Finding} (h : ∀ f ∈ fs, f.isViolation = false) :
    fs.filterMap Finding.violation? = [] := by
  rw [List.filterMap_eq_nil_iff]
  intro f hf
  simpa [Finding.isViolation] using h f hf

theorem clean_ofFindings (name message : String) {fs : List Finding} (h : findings.clean fs) :
    result.clean (.ofFindings name message fs) := by
  simp [result, CheckResult.ofFindings, CheckResult.passed, filterMap_violation_eq_nil h]

theorem stopped_ofFindings (name message : String) {fs : List Finding} (h : findings.stopped fs) :
    result.stopped (.ofFindings name message fs) := by
  obtain ⟨before, v, rfl, hbefore⟩ := h
  simp [result, CheckResult.ofFindings, filterMap_violation_eq_nil hbefore, Finding.violation?]

theorem cuts_ofFindings (name message : String) {fs gs : List Finding} (h : findings.stopped fs)
    (hcut : findings.cuts fs gs) :
    result.cuts (.ofFindings name message fs) (.ofFindings name message gs) := by
  have hadvisories := hcut.filterMap Finding.advisory?
  obtain ⟨before, v, rfl, hbefore⟩ := h
  obtain ⟨after, rfl⟩ := hcut
  refine ⟨rfl, rfl, ?_, hadvisories⟩
  simp [CheckResult.ofFindings, filterMap_violation_eq_nil hbefore, Finding.violation?]

/-- The check stops at its first violation if the run fails fast. -/
def Truncates (keep : ε → Option κ) (c : Check ε) : Prop :=
  ∀ index repository, StopsShort keep result (c.run ⟨index, .failFast, repository⟩)
    (c.run ⟨index, .batch, repository⟩)

variable {keep : ε → Option κ}

theorem stopsShort_ofFindings (name message : String) {x y : Traced ε (List Finding)}
    (h : StopsShort keep findings x y) :
    StopsShort keep result (x >>= fun fs => pure (.ofFindings name message fs))
      (y >>= fun fs => pure (.ofFindings name message fs)) := by
  refine h.bind (fun fs hfs => .ok (clean_ofFindings name message hfs)) fun fs hfs => ?_
  refine ⟨_, rfl, rfl, stopped_ofFindings name message hfs, fun gs r hcut hr => ?_⟩
  cases hr
  exact cuts_ofFindings name message hfs hcut

theorem truncates_ofIndex (name description passMessage : String)
    (entries : ReleaseIndex → List α) (judge : α → Option Violation) :
    Truncates keep (.ofIndex name description passMessage entries judge) := by
  intro index repository
  exact stopsShort_ofFindings name passMessage (stopsShort_sweep keep _ _)

theorem truncates_ofVersions (name description passMessage : String)
    (judge : Repository ε → Release × Version → Traced ε (Option Finding)) :
    Truncates keep (.ofVersions name description passMessage judge) := by
  intro index repository
  refine .bind_same _ fun repository _ => ?_
  exact stopsShort_ofFindings name passMessage (stopsShort_sweep keep _ _)

theorem truncates_of_mem_standardChecks {c : Check ε} (h : c ∈ standardChecks) :
    Truncates keep c := by
  simp only [standardChecks, List.mem_cons, List.not_mem_nil, or_false] at h
  rcases h with rfl | rfl | rfl | rfl | rfl | rfl
  · exact truncates_ofIndex _ _ _ _ _
  · exact truncates_ofIndex _ _ _ _ _
  · exact truncates_ofIndex _ _ _ _ _
  · exact truncates_ofVersions _ _ _ _
  · exact truncates_ofVersions _ _ _ _
  · exact truncates_ofVersions _ _ _ _

theorem exists_result_of_batch {c : Check ε} (hc : c ∈ standardChecks) {index : ReleaseIndex}
    {repository : Option (Repository ε)} {full : CheckResult}
    (hfull : (c.run ⟨index, .batch, repository⟩).result = .ok full) (mode : Mode) :
    ∃ r, (c.run ⟨index, mode, repository⟩).result = .ok r ∧
      (r.passed = true ↔ full.passed = true) := by
  have htruncates : Truncates (fun _ => (none : Option Empty)) c :=
    truncates_of_mem_standardChecks hc
  cases mode with
  | batch => exact ⟨full, hfull, Iff.rfl⟩
  | failFast =>
    cases htruncates index repository with
    | together hsame _ =>
      rw [hsame]
      exact ⟨full, hfull, Iff.rfl⟩
    | @early r hr _ _ hcuts =>
      have hcut : CutTo r full := hcuts full hfull
      refine ⟨r, hr, ?_⟩
      rw [CheckResult.passed_iff, CheckResult.passed_iff, hcut.violations, List.take_eq_nil_iff]
      simp

/-- The first list is the second one cut after its first result that does not pass, and that result
is cut to its first violation. -/
inductive CutAtFailure : List CheckResult → List CheckResult → Prop
  | nil : CutAtFailure [] []
  | passed {r : CheckResult} {rs ss : List CheckResult} (h : r.passed) (hrest : CutAtFailure rs ss) :
    CutAtFailure (r :: rs) (r :: ss)
  | failed {r s : CheckResult} {ss : List CheckResult} (h : s.passed = false) (hcut : CutTo r s) :
    CutAtFailure [r] (s :: ss)

namespace CutAtFailure

theorem refl {rs : List CheckResult} (h : ∀ r ∈ rs, r.passed) : CutAtFailure rs rs := by
  induction rs with
  | nil => exact .nil
  | cons r rs ih => exact .passed (h r (by simp)) (ih fun s hs => h s (by simp [hs]))

theorem append_left {rs ss ts : List CheckResult} (h : ∀ r ∈ rs, r.passed)
    (hcut : CutAtFailure ss ts) : CutAtFailure (rs ++ ss) (rs ++ ts) := by
  induction rs with
  | nil => exact hcut
  | cons r rs ih => exact .passed (h r (by simp)) (ih fun s hs => h s (by simp [hs]))

theorem append_right {rs ss : List CheckResult} (hcut : CutAtFailure rs ss)
    (h : collectViolations rs ≠ []) (ts : List CheckResult) : CutAtFailure rs (ss ++ ts) := by
  induction hcut with
  | nil => exact absurd rfl h
  | @passed r rs ss hr _ ih =>
    refine .passed hr (ih fun hrs => h ?_)
    rw [collectViolations_cons, hrs, CheckResult.passed_iff.mp hr, List.nil_append]
  | failed hs hrs => exact .failed hs hrs

theorem collectViolations_eq {rs ss : List CheckResult} (h : CutAtFailure rs ss) :
    collectViolations rs = (collectViolations ss).take 1 := by
  induction h with
  | nil => rfl
  | passed hr _ ih => simp [CheckResult.passed_iff.mp hr, ih]
  | @failed r s ss hs hcut =>
    obtain ⟨v, vs, hv⟩ := List.exists_cons_of_ne_nil (CheckResult.passed_eq_false_iff.mp hs)
    simp [hcut.violations, hv]

end CutAtFailure

/-- Results of a run, of which the last one alone may fail. -/
def results : Cutting (List CheckResult) where
  clean rs := ∀ r ∈ rs, r.passed
  stopped rs := (collectViolations rs).length = 1
  cuts := CutAtFailure

variable {observe : CheckResult → List ε}

theorem stopsShort_runInOrder (hobserve : ∀ r, (observe r).filterMap keep = [])
    (index : ReleaseIndex) (repository : Option (Repository ε)) {cs : List (Check ε)}
    (h : ∀ c ∈ cs, Truncates keep c) :
    StopsShort keep results (runInOrder ⟨index, .failFast, repository⟩ observe cs)
      (runInOrder ⟨index, .batch, repository⟩ observe cs) := by
  induction cs with
  | nil => exact .ok (by simp [results])
  | cons c cs ih =>
    have ih := ih fun d hd => h d (by simp [hd])
    rw [runInOrder, runInOrder]
    simp only [Mode.isFailFast, Bool.and_true, Bool.and_false, Bool.false_eq_true, if_false]
    refine (h c (by simp) index repository).bind (fun r hr => ?_) fun r hr => ?_
    · have hr : r.passed = true := hr
      refine .bind_same _ fun _ _ => ?_
      rw [if_neg (by simp [hr])]
      refine ih.bind (fun rs hrs => .ok ?_) fun rs hrs => ⟨_, rfl, rfl, ?_, fun ss ts hcut hts => ?_⟩
      · exact List.forall_mem_cons.mpr ⟨hr, hrs⟩
      · simpa [results, CheckResult.passed_iff.mp hr] using hrs
      · cases hts
        exact .passed hr hcut
    · -- The observers see different results here, so only what `keep` drops may differ.
      have hr : r.violations.length = 1 := hr
      have hfailed : r.passed = false :=
        CheckResult.passed_eq_false_iff.mpr (List.ne_nil_of_length_pos (by omega))
      rw [if_pos (by simp [hfailed])]
      refine ⟨[r], rfl, ?_, by simpa [results] using hr, fun s ss hcut hss => ?_⟩
      · exact (congrArg _ (List.append_nil _)).trans (hobserve r)
      · obtain ⟨-, -, hss⟩ := Traced.result_bind_eq_ok.mp hss
        obtain ⟨rs, -, hrs⟩ := Traced.result_bind_eq_ok.mp hss
        cases hrs
        exact .failed (hcut.passed_eq_false hr) hcut

theorem stopsShort_runStage (hobserve : ∀ r, (observe r).filterMap keep = [])
    (index : ReleaseIndex) (stage : Stage) (repository : Option (Repository ε)) :
    StopsShort keep results
      (runStage standardChecks stage ⟨index, .failFast, repository⟩ observe)
      (runStage standardChecks stage ⟨index, .batch, repository⟩ observe) :=
  stopsShort_runInOrder hobserve index repository fun _ hc =>
    truncates_of_mem_standardChecks (List.mem_filter.mp hc).1

/-- A whole run that fails fast beside the batch run. -/
theorem stopsShort_runChecks (hobserve : ∀ r, (observe r).filterMap keep = [])
    (index : ReleaseIndex) (connect : Traced ε (Repository ε)) :
    StopsShort keep results (runChecks index .failFast observe connect)
      (runChecks index .batch observe connect) := by
  rw [runChecks, runChecks]
  simp only [Mode.isFailFast, Bool.and_true, Bool.and_false, Bool.false_eq_true, if_false]
  refine (stopsShort_runStage hobserve index .manifest none).bind ?_ ?_
  · intro first hfirst
    have hfirst : ∀ r ∈ first, r.passed = true := hfirst
    rw [if_neg (by simpa using hfirst)]
    -- Both runs get the repository ready in the same way, and differ in the second stage only.
    refine .bind_same _ fun repository _ => .bind_same _ fun _ _ => .bind_same _ fun _ _ => ?_
    refine (stopsShort_runStage hobserve index .repository (some repository)).bind
      (fun second hsecond => .ok ?_)
      fun second hsecond => ⟨_, rfl, rfl, ?_, fun rest all hcut hall => ?_⟩
    · exact List.forall_mem_append.mpr ⟨hfirst, hsecond⟩
    · simpa [results, collectViolations_eq_nil_iff.mpr hfirst] using hsecond
    · cases hall
      exact hcut.append_left hfirst
  · intro first hfirst
    have hfirst : (collectViolations first).length = 1 := hfirst
    have hfailed : collectViolations first ≠ [] := List.ne_nil_of_length_pos (by omega)
    -- The run that fails fast ends here; the other one goes on behind what they have in common.
    rw [if_pos (any_not_passed_iff.mpr hfailed)]
    refine ⟨first, rfl, rfl, hfirst, fun rest all hcut hall => ?_⟩
    obtain ⟨repository, -, hall⟩ := Traced.result_bind_eq_ok.mp hall
    obtain ⟨-, -, hall⟩ := Traced.result_bind_eq_ok.mp hall
    obtain ⟨-, -, hall⟩ := Traced.result_bind_eq_ok.mp hall
    obtain ⟨second, -, hall⟩ := Traced.result_bind_eq_ok.mp hall
    cases hall
    exact hcut.append_right hfailed second

theorem StopsShort.exists_cut {x y : Traced ε (List CheckResult)} {full : List CheckResult}
    (h : StopsShort keep results x y) (hy : y.result = .ok full) :
    ∃ short, x.result = .ok short ∧ CutAtFailure short full := by
  cases h with
  | together hsame h =>
    rw [hsame] at h ⊢
    exact ⟨full, hy, .refl (h full hy)⟩
  | @early short hx _ _ h => exact ⟨short, hx, h full hy⟩

end Truncation
end ReleaseAudit

import ReleaseAudit.Proofs.Protocol

/-! How a stage goes, whatever its checks are and whatever they look at. Checks run one after the
other, each result is observed before the next check starts, and there are three ways to come to an
end: no check is left, a run that fails fast has a result with violations, or a check cannot be
decided. -/
namespace ReleaseAudit
namespace Stages

open Protocol

variable {ξ ε : Type}

/-- What an observer leaves behind of a result. -/
def heard (observe : CheckResult → List ε) (r : CheckResult) : List (ξ ⊕ ε) := (observe r).map .inr

/-- Results that let a run go on. -/
def Passing (mode : Mode) (rs : List CheckResult) : Prop :=
  mode = .failFast → ∀ r ∈ rs, r.violations = []

section Courses

variable (scope : Scope (Conversation ξ ε)) (observe : CheckResult → List ε)

/-- Checks that have come to results, each with all that happened before it in view. -/
inductive Completed : List (Rule (Conversation ξ ε)) → List (ξ ⊕ ε) → List (ξ ⊕ ε) →
    List CheckResult → Prop
  | nil {past : List (ξ ⊕ ε)} : Completed [] past [] []
  | cons {c : Rule (Conversation ξ ε)} {cs : List (Rule (Conversation ξ ε))}
    {past log more : List (ξ ⊕ ε)} {r : CheckResult} {rs : List CheckResult}
    (h : c.run scope past = ⟨log, .ok r⟩)
    (rest : Completed cs (past ++ (log ++ heard observe r)) more rs) :
    Completed (c :: cs) past (log ++ heard observe r ++ more) (r :: rs)

/-- How checks run: all of them, or up to the first with violations, or up to the first that cannot
be decided. -/
inductive Course (cs : List (Rule (Conversation ξ ε))) (past : List (ξ ⊕ ε)) :
    List (ξ ⊕ ε) → Except Fault (List CheckResult) → Prop
  | finished {log : List (ξ ⊕ ε)} {rs : List CheckResult}
    (h : Completed scope observe cs past log rs) (hpassing : Passing scope.mode rs) :
    Course cs past log (.ok rs)
  | stopped {before after : List (Rule (Conversation ξ ε))} {c : Rule (Conversation ξ ε)}
    {done last : List (ξ ⊕ ε)} {rs : List CheckResult} {r : CheckResult}
    (hcs : cs = before ++ c :: after) (h : Completed scope observe before past done rs)
    (hpassing : Passing scope.mode rs) (hr : c.run scope (past ++ done) = ⟨last, .ok r⟩)
    (hmode : scope.mode = .failFast) (hfailed : r.violations ≠ []) :
    Course cs past (done ++ (last ++ heard observe r)) (.ok (rs ++ [r]))
  | undecided {before after : List (Rule (Conversation ξ ε))} {c : Rule (Conversation ξ ε)}
    {done last : List (ξ ⊕ ε)} {rs : List CheckResult} {fault : Fault}
    (hcs : cs = before ++ c :: after) (h : Completed scope observe before past done rs)
    (hpassing : Passing scope.mode rs) (hc : c.run scope (past ++ done) = ⟨last, .error fault⟩) :
    Course cs past (done ++ last) (.error fault)

end Courses

section Steps

variable {scope : Scope (Conversation ξ ε)} {observe : CheckResult → List ε}
  {c : Rule (Conversation ξ ε)} {before cs : List (Rule (Conversation ξ ε))}
  {past log done : List (ξ ⊕ ε)} {r : CheckResult} {rs : List CheckResult} {fault : Fault}

theorem passing_cons {mode : Mode} :
    Passing mode (r :: rs) ↔ ¬ endsCheck mode r ∧ Passing mode rs := by
  unfold Passing endsCheck
  rw [CheckResult.passed_eq_false_iff]
  cases mode <;> simp

theorem runInOrder_cons_of_undecided (h : c.run scope past = ⟨log, .error fault⟩) :
    runInOrder scope observe (c :: cs) past = ⟨log, .error fault⟩ :=
  Conversation.bind_of_error h _

theorem runInOrder_cons_of_decided (observe : CheckResult → List ε)
    (cs : List (Rule (Conversation ξ ε))) (h : c.run scope past = ⟨log, .ok r⟩) :
    let seen := log ++ heard observe r
    let rest := if !r.passed && scope.mode.isFailFast then pure [r]
      else runInOrder scope observe cs >>= fun rs => pure (r :: rs)
    runInOrder scope observe (c :: cs) past =
      ⟨seen ++ (rest (past ++ seen)).log, (rest (past ++ seen)).result⟩ := by
  intro seen rest
  have hobserved : (Tracing.emitAll (observe r) >>= fun _ => rest) (past ++ log) =
      ⟨heard observe r ++ (rest (past ++ log ++ heard observe r)).log,
        (rest (past ++ log ++ heard observe r)).result⟩ := Conversation.bind_of_ok rfl _
  rw [List.append_assoc past] at hobserved
  rw [runInOrder, Conversation.bind_of_ok h, List.append_assoc log]
  exact congrArg (fun x => Traced.mk (log ++ x.log) x.result) hobserved

theorem runInOrder_cons_of_ends (observe : CheckResult → List ε)
    (cs : List (Rule (Conversation ξ ε))) (h : c.run scope past = ⟨log, .ok r⟩)
    (hends : endsCheck scope.mode r) :
    runInOrder scope observe (c :: cs) past = ⟨log ++ heard observe r, .ok [r]⟩ := by
  have hdecided := runInOrder_cons_of_decided observe cs h
  rw [if_pos (endsCheck_iff.mp hends)] at hdecided
  rw [hdecided]
  exact congrArg (Traced.mk · _) (List.append_nil _)

theorem runInOrder_cons_of_next (observe : CheckResult → List ε)
    (cs : List (Rule (Conversation ξ ε))) (h : c.run scope past = ⟨log, .ok r⟩)
    (hnext : ¬ endsCheck scope.mode r) :
    let rest := runInOrder scope observe cs (past ++ (log ++ heard observe r))
    runInOrder scope observe (c :: cs) past =
      ⟨log ++ heard observe r ++ rest.log, rest.result.map (r :: ·)⟩ := by
  have hdecided := runInOrder_cons_of_decided observe cs h
  rw [if_neg (mt endsCheck_iff.mpr hnext)] at hdecided
  simp only [Conversation.bind_pure_apply] at hdecided
  exact hdecided

theorem Completed.runInOrder_append (h : Completed scope observe before past done rs)
    (hpassing : Passing scope.mode rs) (cs : List (Rule (Conversation ξ ε))) :
    let rest := runInOrder scope observe cs (past ++ done)
    runInOrder scope observe (before ++ cs) past =
      ⟨done ++ rest.log, rest.result.map (rs ++ ·)⟩ := by
  induction h with
  | nil =>
    intro rest
    have hid : rest.result.map ([] ++ ·) = rest.result := by cases rest.result <;> rfl
    rw [hid]
    simp [rest]
  | @cons c before past log more r rs h _ ih =>
    intro rest
    obtain ⟨hnext, hothers⟩ := passing_cons.mp hpassing
    have hmap : (rest.result.map (rs ++ ·)).map (r :: ·) = rest.result.map (r :: rs ++ ·) := by
      cases rest.result <;> rfl
    rw [List.cons_append, runInOrder_cons_of_next observe _ h hnext, ih hothers, ← hmap]
    simp [rest]

theorem Completed.runInOrder_eq (h : Completed scope observe cs past log rs)
    (hpassing : Passing scope.mode rs) : runInOrder scope observe cs past = ⟨log, .ok rs⟩ := by
  have happend := h.runInOrder_append hpassing []
  rw [List.append_nil] at happend
  rw [happend]
  simp [runInOrder, Conversation.pure_apply, Except.map]

theorem Course.runInOrder_eq {result : Except Fault (List CheckResult)}
    (h : Course scope observe cs past log result) :
    runInOrder scope observe cs past = ⟨log, result⟩ := by
  cases h with
  | finished h hpassing => exact h.runInOrder_eq hpassing
  | @stopped before after c done last rs r hcs h hpassing hr hmode hfailed =>
    have hends : endsCheck scope.mode r :=
      ⟨hmode, CheckResult.passed_eq_false_iff.mpr hfailed⟩
    rw [hcs, h.runInOrder_append hpassing, runInOrder_cons_of_ends observe after hr hends]
    rfl
  | @undecided before after c done last rs fault hcs h hpassing hc =>
    have hlast : runInOrder scope observe (c :: after) (past ++ done) = ⟨last, .error fault⟩ :=
      runInOrder_cons_of_undecided hc
    rw [hcs, h.runInOrder_append hpassing, hlast]
    rfl

theorem Course.cons {result : Except Fault (List CheckResult)}
    (h : c.run scope past = ⟨log, .ok r⟩) (hnext : ¬ endsCheck scope.mode r)
    {more : List (ξ ⊕ ε)}
    (rest : Course scope observe cs (past ++ (log ++ heard observe r)) more result) :
    Course scope observe (c :: cs) past (log ++ heard observe r ++ more)
      (result.map (r :: ·)) := by
  cases rest with
  | finished hcompleted hpassing =>
    exact .finished (.cons h hcompleted) (passing_cons.mpr ⟨hnext, hpassing⟩)
  | @stopped before after c' done last rs r' hcs hcompleted hpassing hr hmode hfailed =>
    rw [List.append_assoc past] at hr
    rw [← List.append_assoc (log ++ heard observe r)]
    exact .stopped (congrArg (c :: ·) hcs) (.cons h hcompleted)
      (passing_cons.mpr ⟨hnext, hpassing⟩) hr hmode hfailed
  | @undecided before after c' done last rs fault hcs hcompleted hpassing hc =>
    rw [List.append_assoc past] at hc
    rw [← List.append_assoc (log ++ heard observe r)]
    exact .undecided (congrArg (c :: ·) hcs) (.cons h hcompleted)
      (passing_cons.mpr ⟨hnext, hpassing⟩) hc

theorem exists_course (scope : Scope (Conversation ξ ε)) (observe : CheckResult → List ε)
    (cs : List (Rule (Conversation ξ ε))) (past : List (ξ ⊕ ε)) :
    ∃ log result, Course scope observe cs past log result := by
  induction cs generalizing past with
  | nil => exact ⟨_, _, .finished .nil fun _ => nofun⟩
  | cons c cs ih =>
    -- A check that ends the run is the first of those left, so no log comes before its own.
    have hstart : past ++ [] = past := List.append_nil past
    cases hc : c.run scope past with
    | mk log result =>
    cases result with
    | error fault =>
      rw [← hstart] at hc
      exact ⟨_, _, .undecided (List.nil_append _).symm .nil (fun _ => nofun) hc⟩
    | ok r =>
    by_cases hends : endsCheck scope.mode r
    case neg =>
      obtain ⟨more, result, hcourse⟩ := ih (past ++ (log ++ heard observe r))
      exact ⟨_, _, .cons hc hends hcourse⟩
    rw [← hstart] at hc
    exact ⟨_, _, .stopped (List.nil_append _).symm .nil (fun _ => nofun) hc hends.1
      (CheckResult.passed_eq_false_iff.mp hends.2)⟩

theorem runInOrder_eq_iff {result : Except Fault (List CheckResult)} :
    runInOrder scope observe cs past = ⟨log, result⟩ ↔
      Course scope observe cs past log result := by
  constructor
  · intro h
    obtain ⟨log', result', hcourse⟩ := exists_course scope observe cs past
    obtain ⟨rfl, rfl⟩ := Traced.mk.inj (h.symm.trans hcourse.runInOrder_eq)
    exact hcourse
  · exact Course.runInOrder_eq

end Steps

theorem perm_stages (battery : List (Rule (Conversation ξ ε))) :
    (battery.filter (·.stage = .manifest) ++ battery.filter (·.stage = .repository)).Perm
      battery := by
  have hother : (fun c : Rule (Conversation ξ ε) => decide (c.stage = .repository)) =
      fun c => !decide (c.stage = .manifest) := by
    funext c
    cases c.stage <;> rfl
  rw [hother]
  exact List.filter_append_perm _ _

/-- Whatever checks there are, a stage takes exactly one of the courses, and only through the checks
of that stage, in their order. Every check has a stage, and only one. -/
theorem runStage_exact (battery : List (Rule (Conversation ξ ε)))
    (observe : CheckResult → List ε) :
    (∀ (stage : Stage) (scope : Scope (Conversation ξ ε)) (past log : List (ξ ⊕ ε))
      (result : Except Fault (List CheckResult)),
      runStage battery stage scope observe past = ⟨log, result⟩ ↔
        Course scope observe (battery.filter (·.stage = stage)) past log result) ∧
    (battery.filter (·.stage = .manifest) ++ battery.filter (·.stage = .repository)).Perm
      battery ∧
    ∀ c ∈ battery, ∃! stage, c ∈ battery.filter (·.stage = stage) := by
  refine ⟨fun stage scope past log result => runInOrder_eq_iff, perm_stages battery,
    fun c hc => ⟨c.stage, by simp [hc], fun stage hstage => ?_⟩⟩
  exact (of_decide_eq_true (List.mem_filter.mp hstage).2).symm

section Samples

def sampleRule (name : String) (stage : Stage) (violations : List Violation) :
    Rule (Conversation String String) :=
  ⟨name, "", stage, fun _ _ => ⟨[.inl name], .ok ⟨name, "", violations, []⟩⟩⟩

def sampleBattery : List (Rule (Conversation String String)) :=
  [sampleRule "first" .manifest [], sampleRule "other" .repository [],
    sampleRule "second" .manifest [.missingBaseVersion "rc"], sampleRule "third" .manifest []]

theorem runStage_exact_sample :
    Course ⟨.empty, .failFast, none⟩ (fun r => [r.checkName])
      (sampleBattery.filter (·.stage = .manifest)) []
      [.inl "first", .inr "first", .inl "second", .inr "second"]
      (.ok [⟨"first", "", [], []⟩, ⟨"second", "", [.missingBaseVersion "rc"], []⟩]) ∧
    sampleRule "other" .repository [] ∈ sampleBattery ∧
      ∃! stage, sampleRule "other" .repository [] ∈ sampleBattery.filter (·.stage = stage) := by
  have hmem : sampleRule "other" .repository [] ∈ sampleBattery := by simp [sampleBattery]
  obtain ⟨hcourse, -, hstage⟩ := runStage_exact sampleBattery fun r => [r.checkName]
  exact ⟨(hcourse .manifest ⟨.empty, .failFast, none⟩ [] _ _).mp rfl, hmem, hstage _ hmem⟩

end Samples

end Stages
end ReleaseAudit

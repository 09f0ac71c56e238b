import ReleaseAudit.Audit
import ReleaseAudit.Proofs.Coupling

/-! What becomes of the violations that the checks of a run find. -/
namespace ReleaseAudit
namespace Reporting

open Coupling

variable {α β ε δ : Type}

/-- The results of checks among other events. -/
abbrev Watched := Traced (CheckResult ⊕ Effect)

def unwatched (a : Repository Effect) : Access Watched where
  fetch := a.fetch.mapLog .inr
  ensureBranches names := (a.ensureBranches names).mapLog .inr
  lookUp reference := (a.lookUp reference).mapLog .inr

/-- The checks of a run, each of which leaves its result behind as soon as it is through. -/
def watched (m : Machine) (s : Settings) (index : ReleaseIndex) : Watched (List CheckResult) :=
  runChecks index s.mode (fun r => [.inl r])
    ((Audit.connect m s).mapLog .inr >>= fun a => pure (unwatched a))

/-- The results of the checks that have come to an end, also where there is a failure afterwards. -/
def results (x : Watched α) : List CheckResult := x.log.filterMap Sum.getLeft?

theorem results_bind {x : Watched α} {a : α} (hx : x.result = .ok a) (f : α → Watched β) :
    results (x >>= f) = results x ++ results (f a) := by
  rw [Traced.bind_of_ok hx]
  exact List.filterMap_append

def completed (m : Machine) (s : Settings) (index : ReleaseIndex) : List CheckResult :=
  results (watched m s index)

def shown (p : Printer) : CheckResult ⊕ Effect → List Effect
  | .inl r => (p.report r).map .said
  | .inr effect => [effect]

theorem flatMap_shown_inr (p : Printer) (effects : List Effect) :
    (effects.map (Sum.inr : Effect → CheckResult ⊕ Effect)).flatMap (shown p) = effects := by
  induction effects with
  | nil => rfl
  | cons effect effects ih => exact congrArg (effect :: ·) ih

theorem couples_mapLog (p : Printer) (x : Traced Effect α) :
    (translating (shown p)).couples Eq (x.mapLog .inr) x :=
  ⟨agree_eq_iff.mpr rfl, (flatMap_shown_inr p x.log).symm⟩

theorem answers_unwatched (p : Printer) (index : ReleaseIndex) (a : Repository Effect) :
    (translating (shown p)).Answers index (unwatched a) a where
  fetch := couples_mapLog p _
  ensureBranches := couples_mapLog p _
  reference _ _ := couples_mapLog p _
  tag _ _ := couples_mapLog p _

/-- What a run lets others see of its checks. -/
theorem runChecks_eq_watched (m : Machine) (s : Settings) (index : ReleaseIndex) (p : Printer) :
    runChecks index s.mode (fun r => (p.report r).map .said) (Audit.connect m s) =
      ⟨(watched m s index).log.flatMap (shown p), (watched m s index).result⟩ := by
  have hconnect : (translating (shown p)).couples ((translating (shown p)).Answers index)
      ((Audit.connect m s).mapLog .inr >>= fun a => pure (unwatched a))
      (Audit.connect m s >>= pure) := by
    refine (translating (shown p)).bind (couples_mapLog p _) ?_
    rintro a _ rfl
    exact (translating (shown p)).pure (answers_unwatched p index a)
  rw [bind_pure] at hconnect
  have hobserve : ∀ r, (translating (shown p)).couples Eq
      (Tracing.emitAll [.inl r] : Watched Unit)
      (Tracing.emitAll ((p.report r).map .said) : Traced Effect Unit) :=
    fun r => ⟨.ok rfl, (List.append_nil _).symm⟩
  obtain ⟨hresult, hlog⟩ := couples_runChecks hobserve s.mode hconnect
  exact congrArg₂ Traced.mk hlog (agree_eq_iff.mp hresult).symm

theorem result_runChecks_of_watched {m : Machine} {s : Settings} {index : ReleaseIndex}
    {rs : List CheckResult} (hrs : (watched m s index).result = .ok rs) (p : Printer) :
    (runChecks index s.mode (fun r => (p.report r).map .said) (Audit.connect m s)).result =
      .ok rs := by
  rw [runChecks_eq_watched]
  exact hrs

theorem mem_report {p : Printer} (hp : p.quiet = false) {r : CheckResult} {v : Violation}
    (hv : v ∈ r.violations) : p.paint (some .red) v.message ∈ p.report r := by
  have hfailed : r.passed = false :=
    CheckResult.passed_eq_false_iff.mpr (List.ne_nil_of_mem hv)
  rw [Printer.report_of_not_passed p hfailed]
  refine List.mem_append_right _ ?_
  refine List.mem_flatMap.mpr ⟨v, hv, ?_⟩
  simp [Printer.error, Printer.line, hp]

theorem said_of_completed {m : Machine} {s : Settings} {index : ReleaseIndex} {p : Printer}
    (hp : p.quiet = false) {r : CheckResult} (hr : r ∈ completed m s index) {v : Violation}
    (hv : v ∈ r.violations) : .said (p.paint (some .red) v.message) ∈
      (runChecks index s.mode (fun r => (p.report r).map .said) (Audit.connect m s)).log := by
  rw [runChecks_eq_watched]
  obtain ⟨event, hevent, hleft⟩ := List.mem_filterMap.mp hr
  have hevent' : event = .inl r := by
    cases event with
    | inl r' => exact congrArg _ (Option.some.inj hleft)
    | inr effect => cases hleft
  refine List.mem_flatMap.mpr ⟨.inl r, hevent' ▸ hevent, ?_⟩
  exact List.mem_map_of_mem (mem_report hp hv)

/-- Computations that leave no result of a check behind, each beside itself. -/
def unobserved : Coupling Watched Watched where
  couples S x y := Agree S x.result y.result ∧ results x = []
  pure h := ⟨.ok h, rfl⟩
  fail _ e := ⟨.error e, rfl⟩
  bind {_ _ _ _ _ _ x y _ _} hxy hfg := by
    obtain ⟨hresult, hlog⟩ := hxy
    obtain ⟨log, rx⟩ := x
    obtain ⟨log', ry⟩ := y
    cases hresult with
    | error e => exact ⟨.error e, hlog⟩
    | ok hab =>
      obtain ⟨hresult', hlog'⟩ := hfg _ _ hab
      refine ⟨hresult', ?_⟩
      rw [results_bind rfl, hlog, hlog', List.append_nil]

theorem unobserved_mapLog (x : Traced Effect α) :
    unobserved.couples Eq (x.mapLog .inr) (x.mapLog .inr) := by
  refine ⟨agree_eq_iff.mpr rfl, ?_⟩
  change (x.log.map Sum.inr).filterMap Sum.getLeft? = []
  rw [List.filterMap_map]
  simp

theorem unobserved_answers (index : ReleaseIndex) (a : Repository Effect) :
    unobserved.Answers index (unwatched a) (unwatched a) where
  fetch := unobserved_mapLog _
  ensureBranches := unobserved_mapLog _
  reference _ _ := unobserved_mapLog _
  tag _ _ := unobserved_mapLog _

section Observed

variable {index : ReleaseIndex} {mode : Mode} {a : Option (Access Watched)}
  (ha : Option.Rel (unobserved.Answers index) a a)
include ha

theorem results_runInOrder {cs : List (Rule Watched)}
    (h : List.Forall₂ (unobserved.Pairs index) cs cs) {rs : List CheckResult}
    (hrs : (runInOrder ⟨index, mode, a⟩ (fun r => [.inl r]) cs).result = .ok rs) :
    results (runInOrder ⟨index, mode, a⟩ (fun r => [.inl r]) cs) = rs := by
  induction cs generalizing rs with
  | nil =>
    cases hrs
    rfl
  | cons c cs ih =>
    obtain ⟨hc, hcs⟩ := List.forall₂_cons.mp h
    rw [runInOrder] at hrs ⊢
    obtain ⟨r, hr, hrs⟩ := Traced.result_bind_eq_ok.mp hrs
    obtain ⟨-, -, hrs⟩ := Traced.result_bind_eq_ok.mp hrs
    rw [results_bind hr, results_bind rfl, (hc.run mode ha).2]
    split at hrs
    · next hstop =>
      cases hrs
      rw [if_pos hstop]
      rfl
    · next hstop =>
      obtain ⟨rest, hrest, hrs⟩ := Traced.result_bind_eq_ok.mp hrs
      cases hrs
      rw [if_neg hstop, results_bind hrest, ih hcs hrest]
      exact congrArg (r :: ·) (List.append_nil rest)

theorem results_runStage (stage : Stage) {rs : List CheckResult}
    (hrs : (runStage standardChecks stage ⟨index, mode, a⟩ fun r => [.inl r]).result = .ok rs) :
    results (runStage standardChecks stage ⟨index, mode, a⟩ fun r => [.inl r]) = rs :=
  results_runInOrder ha
    (List.rel_filter (fun c d hcd => by simp [hcd.stage]) pairs_standardChecks) hrs

end Observed

/-- Where a run comes to results, these are the results of all its checks. -/
theorem completed_of_ok {m : Machine} {s : Settings} {index : ReleaseIndex} {rs : List CheckResult}
    (hrs : (watched m s index).result = .ok rs) : completed m s index = rs := by
  unfold completed
  unfold watched runChecks at hrs ⊢
  obtain ⟨first, hfirst, hrs⟩ := Traced.result_bind_eq_ok.mp hrs
  rw [results_bind hfirst, results_runStage .none .manifest hfirst]
  split at hrs
  · next hstop =>
    cases hrs
    rw [if_pos hstop]
    exact List.append_nil _
  · next hstop =>
    rw [if_neg hstop]
    obtain ⟨access, haccess, hrs⟩ := Traced.result_bind_eq_ok.mp hrs
    obtain ⟨_, hfetch, hrs⟩ := Traced.result_bind_eq_ok.mp hrs
    obtain ⟨_, hensure, hrs⟩ := Traced.result_bind_eq_ok.mp hrs
    obtain ⟨second, hsecond, hrs⟩ := Traced.result_bind_eq_ok.mp hrs
    cases hrs
    obtain ⟨repository, hrepository, haccess'⟩ := Traced.result_bind_eq_ok.mp haccess
    cases haccess'
    -- Between the two stages nothing is done but questions, and these leave no results behind.
    have hanswers := unobserved_answers index repository
    rw [results_bind haccess, results_bind hfetch, results_bind hensure, results_bind hsecond,
      results_bind hrepository, (unobserved_mapLog (Audit.connect m s)).2, hanswers.fetch.2,
      hanswers.ensureBranches.2, results_runStage (.some hanswers) .repository hsecond]
    exact congrArg (first ++ ·) (List.append_nil second)

theorem run_of_load {m : Machine} {s : Settings} {index : ReleaseIndex}
    (hload : Audit.loadIndex m.files s = .ok index) (asJson : Bool) :
    Audit.run m s asJson =
      Audit.sayAll ((Audit.printerFor m asJson).info (Audit.headline s)) >>= fun _ =>
      Audit.sayAll ((Audit.printerFor m asJson).success "Schema validation passed") >>= fun _ =>
      runChecks index s.mode (fun r => ((Audit.printerFor m asJson).report r).map .said)
        (Audit.connect m s) >>= fun rs =>
      Audit.sayAll (Audit.reportLines asJson index s.mode rs) >>= fun _ =>
      Traced.ofExcept (finish (collectViolations rs) s.mode) >>= fun _ =>
      Audit.sayAll ((Audit.printerFor m asJson).success "✅ All checks passed") := by
  unfold Audit.run Audit.conduct
  rw [hload]
  simp only [Traced.ofExcept_eq]
  rfl

section Outcome

variable {m : Machine} {s : Settings} {index : ReleaseIndex}
  (hload : Audit.loadIndex m.files s = .ok index)
include hload

theorem printed_of_completed {r : CheckResult} (hr : r ∈ completed m s index) {v : Violation}
    (hv : v ∈ r.violations) :
    .said (m.printer.paint (some .red) v.message) ∈ (Audit.run m s false).log := by
  rw [run_of_load hload]
  refine Traced.mem_log_bind_right rfl (Traced.mem_log_bind_right rfl ?_)
  exact Traced.mem_log_bind_left (said_of_completed rfl hr hv) _

theorem result_run_of_ok {rs : List CheckResult} (hrs : (watched m s index).result = .ok rs)
    (asJson : Bool) : (Audit.run m s asJson).result = finish (collectViolations rs) s.mode := by
  rw [run_of_load hload, Traced.bind_of_ok rfl, Traced.bind_of_ok rfl,
    Traced.bind_of_ok (result_runChecks_of_watched hrs _), Traced.bind_of_ok rfl]
  change (Traced.ofExcept (finish (collectViolations rs) s.mode) >>= fun _ => _).result = _
  rw [Traced.result_bind]
  cases finish (collectViolations rs) s.mode <;> rfl

theorem report_of_ok {rs : List CheckResult} (hrs : (watched m s index).result = .ok rs) :
    .said (Report.ofResults index s.mode rs).text ∈ (Audit.run m s true).log := by
  rw [run_of_load hload]
  refine Traced.mem_log_bind_right rfl (Traced.mem_log_bind_right rfl ?_)
  refine Traced.mem_log_bind_right (result_runChecks_of_watched hrs _) ?_
  refine Traced.mem_log_bind_left ?_ _
  exact List.mem_singleton.mpr rfl

/-- No violation that a check of a batch run has found is lost, unless the report for machines is
asked for and the checks come to no results: each has a status line, or stands in the report. Where
the checks come to results, it is also in the fault with which the run ends. -/
theorem violation_reported (hbatch : s.mode = .batch) {r : CheckResult}
    (hr : r ∈ completed m s index) {v : Violation} (hv : v ∈ r.violations) :
    .said (m.printer.paint (some .red) v.message) ∈ (Audit.run m s false).log ∧
    ∀ rs, (watched m s index).result = .ok rs →
      r ∈ rs ∧ .said (Report.ofResults index .batch rs).text ∈ (Audit.run m s true).log ∧
      ∀ asJson, ∃ vs, v ∈ vs ∧ (Audit.run m s asJson).result = .error (.violations vs) := by
  refine ⟨printed_of_completed hload hr hv, fun rs hrs => ?_⟩
  have hmem : r ∈ rs := completed_of_ok hrs ▸ hr
  have hfound : v ∈ collectViolations rs := List.mem_flatMap.mpr ⟨r, hmem, hv⟩
  refine ⟨hmem, hbatch ▸ report_of_ok hload hrs, fun asJson => ⟨_, hfound, ?_⟩⟩
  rw [result_run_of_ok hload hrs, hbatch]
  obtain ⟨w, ws, hws⟩ := List.exists_cons_of_ne_nil (List.ne_nil_of_mem hfound)
  rw [hws]
  rfl

end Outcome

section Samples

def bytesOf (text : String) : List UInt8 := text.toUTF8.toList

/-- A manifest whose only release has no base version, and a schema that accepts everything. -/
def sampleFiles : FileSystem :=
  (FileSystem.empty.withFile ["index.json"] (bytesOf
    "\x7b\"releases\":[\x7b\"rc_name\":\"rc--2024-05-04_09-30\",\"versions\":[\x7b\"name\":\"edge\",\"version\":\"4f2e1c\"\x7d]\x7d]\x7d")).withFile
    ["schema.json"] (bytesOf "true")

def sampleMachine : Machine := ⟨sampleFiles, [], fun _ => .error .notFound, false⟩

/-- There is neither a clone nor a remote to clone from. -/
def sampleSettings : Settings :=
  ⟨⟨"/index.json"⟩, ⟨"/schema.json"⟩, ⟨"/cache"⟩, none, "main", .batch⟩

def sampleIndex : ReleaseIndex :=
  ⟨[⟨"rc--2024-05-04_09-30", ⟨⟨2024, 5, 4, 9, 30⟩, by decide⟩, [⟨"edge", "4f2e1c"⟩]⟩]⟩

def fault? (x : Except Fault α) : Option Fault :=
  match x with
  | .ok _ => none
  | .error e => some e

theorem loadIndex_sample :
    Audit.loadIndex sampleMachine.files sampleSettings = .ok sampleIndex := by
  have hindex : (Audit.loadIndex sampleMachine.files sampleSettings).toOption = some sampleIndex := by
    decide +kernel
  cases hload : Audit.loadIndex sampleMachine.files sampleSettings with
  | error e =>
    rw [hload] at hindex
    cases hindex
  | ok index =>
    rw [hload] at hindex
    rw [Option.some.inj hindex]

def sampleResult : CheckResult :=
  ⟨"base-version", "All releases have a base version",
    [.missingBaseVersion "rc--2024-05-04_09-30"], []⟩

theorem sampleResult_mem : sampleResult ∈ completed sampleMachine sampleSettings sampleIndex := by
  decide +kernel

theorem violation_reported_sample :
    .said (sampleMachine.printer.paint (some .red)
      (Violation.missingBaseVersion "rc--2024-05-04_09-30").message) ∈
        (Audit.run sampleMachine sampleSettings false).log :=
  (violation_reported loadIndex_sample rfl sampleResult_mem (List.mem_singleton.mpr rfl)).1

/-- Asked for the report for machines, a run without a repository says nothing about the violation
that it has found. -/
theorem report_loses_violation :
    Audit.loadIndex sampleMachine.files sampleSettings = .ok sampleIndex ∧
    sampleSettings.mode = .batch ∧
    sampleResult ∈ completed sampleMachine sampleSettings sampleIndex ∧
    .missingBaseVersion "rc--2024-05-04_09-30" ∈ sampleResult.violations ∧
    (Audit.run sampleMachine sampleSettings true).log = [] ∧
    fault? (Audit.run sampleMachine sampleSettings true).result =
      some (.repositoryNotFound ⟨"/cache"⟩) := by
  rw [run_of_load loadIndex_sample]
  refine ⟨loadIndex_sample, rfl, sampleResult_mem, by decide, ?_, ?_⟩
  · decide +kernel
  · decide +kernel

end Samples

end Reporting
end ReleaseAudit

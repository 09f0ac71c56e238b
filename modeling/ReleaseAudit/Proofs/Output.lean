import ReleaseAudit.Program
import ReleaseAudit.Proofs.Conduct
import ReleaseAudit.Proofs.Reporting
import ReleaseAudit.Proofs.Verdict

/-! What a run writes to its output, with status lines or with a report for machines, and what it
does apart from that. -/
namespace ReleaseAudit
namespace Output

open Coupling

/-- What there is of an effect besides the output. -/
def unsaid : Effect → List Effect
  | .said _ => []
  | effect => [effect]

/-- What a run does apart from its output: its messages, commands and folders. -/
def deeds (log : List Effect) : List Effect := log.flatMap unsaid

@[simp] theorem deeds_append (log more : List Effect) :
    deeds (log ++ more) = deeds log ++ deeds more := List.flatMap_append

@[simp] theorem deeds_said (lines : List String) : deeds (lines.map .said) = [] := by
  induction lines with
  | nil => rfl
  | cons line lines ih => exact ih

@[simp] theorem outputLines_deeds (log : List Effect) : Outcome.outputLines (deeds log) = [] := by
  induction log with
  | nil => rfl
  | cons effect log ih => cases effect <;> exact ih

theorem deeds_deeds (log : List Effect) : deeds (deeds log) = deeds log := by
  induction log with
  | nil => rfl
  | cons effect log ih => cases effect <;> first | exact ih | exact congrArg (_ :: ·) ih

theorem commands_deeds (log : List Effect) :
    Outcome.commands (deeds log) = Outcome.commands log := by
  induction log with
  | nil => rfl
  | cons effect log ih => cases effect <;> first | exact ih | exact congrArg (_ :: ·) ih

/-- The second computation is the first one without its output. -/
def muting : Coupling (Traced Effect) (Traced Effect) := .translating unsaid

theorem muting_emitAll {effects : List Effect} (h : deeds effects = effects) :
    muting.couples Eq (Tracing.emitAll effects) (Tracing.emitAll effects) :=
  ⟨.ok rfl, h.symm⟩

theorem muting_shell (git : Git) (failure : String) (command : Git.Command) :
    muting.couples Eq (git.shell failure command) (git.shell failure command) := by
  refine ⟨agree_eq_iff.mpr rfl, ?_⟩
  change (Git.run git command).log = deeds (Git.run git command).log
  unfold Git.run
  cases git.answer command <;> rfl

theorem muting_madeFolders (made : List Path) :
    muting.couples Eq (Tracing.emitAll (made.map .madeFolder))
      (Tracing.emitAll (made.map .madeFolder)) := by
  refine muting_emitAll ?_
  induction made with
  | nil => rfl
  | cons p made ih => exact congrArg (_ :: ·) ih

theorem muting_connect (m : Machine) (s : Settings) (index : ReleaseIndex) :
    muting.couples (muting.Answers index) (Audit.connect m s) (Audit.connect m s) := by
  refine muting.bind (couples_openOrClone (fun _ => muting_shell _ _ _) muting_madeFolders
    (fun _ => muting_emitAll rfl) (fun _ _ _ => muting_shell _ _ _)) ?_
  rintro c _ ⟨-, rfl⟩
  exact muting.pure
    (answers_access (fun _ _ => muting_shell _ _ _) (fun _ => muting_emitAll rfl) index)

def checks (m : Machine) (s : Settings) (index : ReleaseIndex) :
    Traced Effect (List CheckResult) :=
  runChecks index s.mode (fun _ => []) (Audit.connect m s)

/-- A printer adds nothing but output. -/
theorem checks_eq (m : Machine) (s : Settings) (index : ReleaseIndex) (p : Printer) :
    let printed := runChecks index s.mode (fun r => (p.report r).map .said) (Audit.connect m s)
    checks m s index = ⟨deeds printed.log, printed.result⟩ := by
  intro printed
  have hobserve : ∀ r, muting.couples Eq
      (Tracing.emitAll ((p.report r).map .said) : Traced Effect Unit)
      (Tracing.emitAll [] : Traced Effect Unit) :=
    fun r => ⟨.ok rfl, (deeds_said _).symm⟩
  obtain ⟨hresult, hlog⟩ := couples_runChecks hobserve s.mode (muting_connect m s index)
  exact congrArg₂ Traced.mk hlog (agree_eq_iff.mp hresult).symm

theorem deeds_checks (m : Machine) (s : Settings) (index : ReleaseIndex) :
    deeds (checks m s index).log = (checks m s index).log := by
  rw [checks_eq m s index .silent]
  exact deeds_deeds _

/-- The index that a run reads and the results that its checks come to. -/
def audited (m : Machine) (s : Settings) : Except Fault (ReleaseIndex × List CheckResult) := do
  let index ← Audit.loadIndex m.files s
  let results ← (checks m s index).result
  return (index, results)

theorem audited_of_load {m : Machine} {s : Settings} {index : ReleaseIndex}
    (hload : Audit.loadIndex m.files s = .ok index) :
    audited m s = (checks m s index).result >>= fun results => .ok (index, results) := by
  unfold audited
  rw [hload]
  rfl

section Runs

variable (m : Machine) (s : Settings) (asJson : Bool)

def preface : List Effect :=
  ((Audit.printerFor m asJson).info (Audit.headline s) ++
    (Audit.printerFor m asJson).success "Schema validation passed").map .said

def printedChecks (index : ReleaseIndex) : Traced Effect (List CheckResult) :=
  runChecks index s.mode (fun r => ((Audit.printerFor m asJson).report r).map .said)
    (Audit.connect m s)

def closing (index : ReleaseIndex) (results : List CheckResult) : List Effect :=
  (Audit.reportLines asJson index s.mode results ++
    if collectViolations results = [] then
      (Audit.printerFor m asJson).success "✅ All checks passed"
    else []).map .said

variable {m s} {index : ReleaseIndex}

theorem run_of_unread {e : Fault} (hload : Audit.loadIndex m.files s = .error e) :
    Audit.run m s asJson =
      ⟨((Audit.printerFor m asJson).info (Audit.headline s)).map .said, .error e⟩ := by
  unfold Audit.run Audit.conduct
  rw [hload]
  exact congrArg (Traced.mk · _) (List.append_nil _)

theorem result_printedChecks (m : Machine) (s : Settings) (index : ReleaseIndex) :
    (printedChecks m s asJson index).result = (checks m s index).result := by
  rw [checks_eq m s index (Audit.printerFor m asJson)]
  rfl

theorem run_of_undecided (hload : Audit.loadIndex m.files s = .ok index) {e : Fault}
    (hchecks : (checks m s index).result = .error e) :
    Audit.run m s asJson =
      ⟨preface m s asJson ++ (printedChecks m s asJson index).log, .error e⟩ := by
  have hprinted := (result_printedChecks asJson m s index).trans hchecks
  unfold printedChecks at hprinted ⊢
  rw [Reporting.run_of_load hload, Traced.bind_of_ok rfl, Traced.bind_of_ok rfl,
    Traced.bind_of_error hprinted]
  simp [preface, Audit.sayAll, Tracing.emitAll, Traced.emitAll]

theorem closing_eq (results : List CheckResult) :
    (Audit.sayAll (Audit.reportLines asJson index s.mode results) >>= fun _ =>
      Traced.ofExcept (finish (collectViolations results) s.mode) >>= fun _ =>
      Audit.sayAll ((Audit.printerFor m asJson).success "✅ All checks passed")) =
      ⟨closing m s asJson index results, finish (collectViolations results) s.mode⟩ := by
  rw [Traced.bind_of_ok rfl]
  unfold closing
  cases hfound : collectViolations results with
  | nil =>
    rw [if_pos rfl, List.map_append]
    rfl
  | cons v vs =>
    rw [if_neg (List.cons_ne_nil v vs)]
    cases s.mode <;> simp [finish, Traced.ofExcept, Traced.bind_of_error, Audit.sayAll,
      Tracing.emitAll, Traced.emitAll]

theorem run_of_decided (hload : Audit.loadIndex m.files s = .ok index)
    {results : List CheckResult} (hchecks : (checks m s index).result = .ok results) :
    Audit.run m s asJson =
      ⟨preface m s asJson ++ (printedChecks m s asJson index).log ++
        closing m s asJson index results, finish (collectViolations results) s.mode⟩ := by
  have hprinted := (result_printedChecks asJson m s index).trans hchecks
  unfold printedChecks at hprinted ⊢
  rw [Reporting.run_of_load hload, Traced.bind_of_ok rfl, Traced.bind_of_ok rfl,
    Traced.bind_of_ok hprinted, closing_eq]
  simp [preface, Audit.sayAll, Tracing.emitAll, Traced.emitAll]

/-- What a run does is up to the index and the checks alone. -/
theorem deeds_run (hload : Audit.loadIndex m.files s = .ok index) :
    deeds (Audit.run m s asJson).log = (checks m s index).log := by
  have hprinted : deeds (printedChecks m s asJson index).log = (checks m s index).log := by
    rw [checks_eq m s index (Audit.printerFor m asJson)]
    rfl
  cases hchecks : (checks m s index).result with
  | error e =>
    rw [run_of_undecided asJson hload hchecks, deeds_append, preface, deeds_said, hprinted]
    rfl
  | ok results =>
    rw [run_of_decided asJson hload hchecks, deeds_append, deeds_append, preface, closing,
      deeds_said, deeds_said, hprinted]
    exact List.append_nil _

theorem result_run (m : Machine) (s : Settings) :
    (Audit.run m s asJson).result =
      audited m s >>= fun found => finish (collectViolations found.2) s.mode := by
  cases hload : Audit.loadIndex m.files s with
  | error e =>
    rw [run_of_unread asJson hload, audited, hload]
    rfl
  | ok index =>
    rw [audited_of_load hload]
    cases hchecks : (checks m s index).result with
    | error e =>
      rw [run_of_undecided asJson hload hchecks]
      rfl
    | ok results =>
      rw [run_of_decided asJson hload hchecks]
      rfl

theorem outputLines_json (m : Machine) (s : Settings) :
    Outcome.outputLines (Audit.run m s true).log =
      match audited m s with
      | .ok (index, results) => [(Report.ofResults index s.mode results).text]
      | .error _ => [] := by
  cases hload : Audit.loadIndex m.files s with
  | error e =>
    rw [run_of_unread true hload, audited, hload]
    rfl
  | ok index =>
    have hprinted : printedChecks m s true index = checks m s index := by
      simp only [printedChecks, checks, Audit.printerFor, if_true, Printer.report_silent,
        List.map_nil]
    -- A silent printer leaves the deeds of the checks, and these have no lines.
    have hsilent : Outcome.outputLines (checks m s index).log = [] := by
      rw [← deeds_checks, outputLines_deeds]
    rw [audited_of_load hload]
    cases hchecks : (checks m s index).result with
    | error e =>
      rw [run_of_undecided true hload hchecks, hprinted]
      exact hsilent
    | ok results =>
      have hclosing : closing m s true index results =
          [.said (Report.ofResults index s.mode results).text] := by
        unfold closing
        split <;> rfl
      rw [run_of_decided true hload hchecks, hprinted, hclosing]
      change Outcome.outputLines ((checks m s index).log ++ _) = _
      unfold Outcome.outputLines at hsilent ⊢
      rw [List.filterMap_append, hsilent]
      rfl

end Runs

theorem log_ofTraced (x : Traced Effect Unit) : (Outcome.ofTraced x).log = x.log := by
  unfold Outcome.ofTraced
  split <;> rfl

theorem status_ofTraced_eq_zero_iff (x : Traced Effect Unit) :
    (Outcome.ofTraced x).status = 0 ↔ x.result = .ok () := by
  unfold Outcome.ofTraced
  cases x.result <;> simp [Fault.exitCode]

/-- A run with a report for machines, beside the one with status lines. -/
structure Matches (m : Machine) (s : Settings) (json plain : Traced Effect Unit) : Prop where
  result : json.result = plain.result
  status : (Outcome.ofTraced json).status = (Outcome.ofTraced plain).status
  deeds : deeds json.log = deeds plain.log
  commands : Outcome.commands json.log = Outcome.commands plain.log
  output_eq_empty_iff : (Outcome.ofTraced json).output = "" ↔ ∃ e, audited m s = .error e
  /-- There is one report, and nothing else. -/
  report : ∀ index results, audited m s = .ok (index, results) → ∃ report : Report,
    (Outcome.ofTraced json).output = report.text ++ "\n" ∧ report.results = results ∧
    report.releases = index.releases.length ∧ report.versions = index.versionCount ∧
    report.mode = s.mode ∧ (report.passed = true ↔ json.result = .ok ()) ∧
    (report.passed = true ↔ (Outcome.ofTraced json).status = 0)

theorem passed_ofResults_iff {m : Machine} {s : Settings} {index : ReleaseIndex}
    {results : List CheckResult} (haudited : audited m s = .ok (index, results)) :
    (Report.ofResults index s.mode results).passed = true ↔
      (Audit.run m s true).result = .ok () := by
  have hresult : (Audit.run m s true).result = finish (collectViolations results) s.mode := by
    rw [result_run, haudited]
    rfl
  rw [hresult, Verdict.finish_eq_ok_iff]
  exact List.isEmpty_iff

end Output
end ReleaseAudit

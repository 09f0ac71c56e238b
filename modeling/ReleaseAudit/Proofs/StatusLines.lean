import ReleaseAudit.Proofs.Isolation
import ReleaseAudit.Proofs.Output

/-! The status lines of a run. They are printed while the checks run, and the outcome is made of the
results afterwards; here the two are brought together, whatever git answers. -/
namespace ReleaseAudit

/-- What a status line is about. -/
inductive StatusLine where
  | headline | accepted
  | advisory (check : String) (a : Advisory)
  | violation (check : String) (v : Violation)
  | success (check message : String)
  | allPassed
  deriving DecidableEq, Repr

namespace StatusLine

open Text (head?_append)

def message (s : Settings) : StatusLine → String
  | .headline => Audit.headline s
  | .accepted => "Schema validation passed"
  | .advisory _ a => a.message
  | .violation _ v => v.message
  | .success _ message => message
  | .allPassed => "✅ All checks passed"

def color : StatusLine → Option Color
  | .headline => none
  | .advisory _ _ => some .yellow
  | .violation _ _ => some .red
  | .accepted | .success _ _ | .allPassed => some .green

def text (p : Printer) (s : Settings) (l : StatusLine) : String := p.paint l.color (l.message s)

def violation? : StatusLine → Option Violation
  | .violation _ v => some v
  | _ => none

/-- The lines of a result: all its advisories, then all its violations, or that there are none. -/
def ofResult (r : CheckResult) : List StatusLine :=
  r.advisories.map (.advisory r.checkName) ++
    if r.violations = [] then [.success r.checkName r.message]
    else r.violations.map (.violation r.checkName)

def closing (results : List CheckResult) : List StatusLine :=
  if collectViolations results = [] then [.allPassed] else []

/-- The lines of a run that has come to results. -/
def ofRun (results : List CheckResult) : List StatusLine :=
  [.headline, .accepted] ++ results.flatMap ofResult ++ closing results

variable {p : Printer} {s : Settings} {r : CheckResult} {results : List CheckResult}

theorem report_eq (hp : p.quiet = false) (s : Settings) (r : CheckResult) :
    p.report r = (ofResult r).map (text p s) := by
  have hadvisories : (r.advisories.flatMap fun a => p.warning a.message) =
      (r.advisories.map (advisory r.checkName)).map (text p s) := by
    simp [Printer.warning, Printer.line, hp, ← List.map_eq_flatMap, text, color, message]
  have hviolations : (r.violations.flatMap fun v => p.error v.message) =
      (r.violations.map (violation r.checkName)).map (text p s) := by
    simp [Printer.error, Printer.line, hp, ← List.map_eq_flatMap, text, color, message]
  rw [ofResult, List.map_append, ← hadvisories]
  by_cases hr : r.violations = []
  · rw [Printer.report_of_passed p (CheckResult.passed_iff.mpr hr), if_pos hr]
    simp [Printer.success, Printer.line, hp, text, color, message]
  · rw [Printer.report_of_not_passed p (CheckResult.passed_eq_false_iff.mpr hr), if_neg hr,
      hviolations]

theorem filterMap_violation?_ofResult (r : CheckResult) :
    (ofResult r).filterMap violation? = r.violations := by
  have hadvisories : (r.advisories.map (advisory r.checkName)).filterMap violation? = [] := by
    simp [List.filterMap_map, Function.comp_def, violation?]
  have hviolations : (r.violations.map (violation r.checkName)).filterMap violation? =
      r.violations := by
    simp [List.filterMap_map, Function.comp_def, violation?]
  rw [ofResult, List.filterMap_append, hadvisories, List.nil_append]
  by_cases hr : r.violations = []
  · simp [hr, violation?]
  · rw [if_neg hr, hviolations]

theorem filterMap_violation?_ofRun (results : List CheckResult) :
    (ofRun results).filterMap violation? = collectViolations results := by
  have hclosing : (closing results).filterMap violation? = [] := by
    unfold closing
    split <;> rfl
  have hresults : (results.flatMap ofResult).filterMap violation? = collectViolations results := by
    rw [List.filterMap_flatMap, collectViolations]
    simp only [filterMap_violation?_ofResult]
  rw [ofRun, List.filterMap_append, List.filterMap_append, hclosing, hresults, List.append_nil]
  rfl

/-- Each violation is printed at least as often as it is found; others may read the same. -/
theorem count_violation_le (p : Printer) (s : Settings) (results : List CheckResult)
    (v : Violation) : (collectViolations results).count v ≤
      ((ofRun results).map (text p s)).count (p.paint (some .red) v.message) := by
  rw [← filterMap_violation?_ofRun, List.count, List.countP_filterMap, List.count, List.countP_map]
  refine List.countP_mono_left fun l _ hl => ?_
  cases l with
  | violation check w =>
    have hsame : w = v := by simpa [violation?] using hl
    simp [hsame, text, color, message]
  | _ => cases hl

theorem mem_ofRun {l : StatusLine} : l ∈ ofRun results ↔
    l = .headline ∨ l = .accepted ∨ (∃ r ∈ results, l ∈ ofResult r) ∨
      l = .allPassed ∧ collectViolations results = [] := by
  have hclosing : l ∈ closing results ↔ l = .allPassed ∧ collectViolations results = [] := by
    unfold closing
    by_cases h : collectViolations results = [] <;> simp [h]
  simp [ofRun, hclosing]

theorem success_mem_ofResult {check message : String} : success check message ∈ ofResult r ↔
    r.violations = [] ∧ r.checkName = check ∧ r.message = message := by
  unfold ofResult
  by_cases hr : r.violations = [] <;> simp [hr, eq_comm]

theorem violation_mem_ofResult {check : String} {v : Violation} :
    violation check v ∈ ofResult r ↔ v ∈ r.violations ∧ r.checkName = check := by
  unfold ofResult
  by_cases hr : r.violations = [] <;> simp [hr]

theorem success_mem_ofRun {check message : String} : success check message ∈ ofRun results ↔
    ∃ r ∈ results, r.violations = [] ∧ r.checkName = check ∧ r.message = message := by
  simp [mem_ofRun, success_mem_ofResult]

theorem violation_mem_ofRun {check : String} {v : Violation} :
    violation check v ∈ ofRun results ↔ ∃ r ∈ results, v ∈ r.violations ∧ r.checkName = check := by
  simp [mem_ofRun, violation_mem_ofResult]

theorem allPassed_mem_ofRun :
    allPassed ∈ ofRun results ↔ collectViolations results = [] := by
  have hinside : ∀ r : CheckResult, allPassed ∉ ofResult r := by
    intro r
    unfold ofResult
    by_cases hr : r.violations = [] <;> simp [hr]
  simp [mem_ofRun, hinside]

/-! Lines told apart by what is printed. -/

/-- The checks of a run with the messages that stand for a pass. -/
def announcements : List (String × String) :=
  [("base-version", "All releases have a base version"),
    ("unique-version-names", "All version names are unique within the respective releases"),
    ("rc-order", "All RCs are ordered descending by date"),
    ("commit-existence", "All commits exist"),
    ("branch-membership", "All versions are on the correct branches"),
    ("tag-consistency", "Finished tag consistency check")]

/-- A line as runs have them: a check passes with its own message. -/
def IsUsual : StatusLine → Prop
  | .success check message => (check, message) ∈ announcements
  | _ => True

def initials : StatusLine → List Char
  | .headline => ['🔍']
  | .accepted => ['S']
  | .advisory _ _ => ['T']
  | .violation _ _ => ['R', 'V', 'C', 'T']
  | .success _ _ => ['A', 'F']
  | .allPassed => ['✅']

theorem head?_violation (v : Violation) :
    ∃ c ∈ ['R', 'V', 'C', 'T'], v.message.toList.head? = some c := by
  cases v
  case missingBaseVersion | rcOutOfOrder =>
    refine ⟨'R', by decide, ?_⟩
    simp only [Violation.message, String.append_assoc]
    rw [head?_append (by decide)]
    decide
  case duplicateVersionName =>
    refine ⟨'V', by decide, ?_⟩
    simp only [Violation.message, String.append_assoc]
    rw [head?_append (by decide)]
    decide
  case commitNotFound | notOnBranch =>
    refine ⟨'C', by decide, ?_⟩
    simp only [Violation.message, String.append_assoc]
    rw [head?_append (by decide)]
    decide
  case tagDrift =>
    refine ⟨'T', by decide, ?_⟩
    simp only [Violation.message, String.append_assoc]
    rw [head?_append (by decide)]
    decide

theorem head?_message {l : StatusLine} (hl : l.IsUsual) (s : Settings) :
    ∃ c ∈ l.initials, (l.message s).toList.head? = some c := by
  cases l with
  | headline =>
    refine ⟨'🔍', List.mem_singleton_self _, ?_⟩
    unfold message Audit.headline
    rw [String.append_assoc, String.append_assoc, String.append_assoc, String.append_assoc,
      head?_append (by decide)]
    decide
  | accepted =>
    have hhead : "Schema validation passed".toList.head? = some 'S' := by decide
    exact ⟨'S', List.mem_singleton_self _, hhead⟩
  | advisory check a =>
    cases a
    refine ⟨'T', List.mem_singleton_self _, ?_⟩
    simp only [message, Advisory.message, String.append_assoc]
    rw [head?_append (by decide)]
    decide
  | violation check v => exact head?_violation v
  | success check message =>
    have hall : ∀ a ∈ announcements, a.2.toList.head? = some 'A' ∨ a.2.toList.head? = some 'F' := by
      decide
    rcases hall _ hl with h | h
    · exact ⟨'A', by simp [initials], h⟩
    · exact ⟨'F', by simp [initials], h⟩
  | allPassed =>
    have hhead : "✅ All checks passed".toList.head? = some '✅' := by decide
    exact ⟨'✅', List.mem_singleton_self _, hhead⟩

/-- Colors hide nothing: they begin and end with a control sequence. -/
theorem eq_of_paint_eq {c c' : Option Color} {m m' : String}
    (hm : m.toList.head? ≠ some '\x1b') (hm' : m'.toList.head? ≠ some '\x1b')
    (h : p.paint c m = p.paint c' m') : m = m' := by
  have hstart : ∀ c : Color, ∃ code, c.start.toList = '\x1b' :: code ∧ code.length = 4 := by
    intro c
    cases c <;> exact ⟨_, rfl, rfl⟩
  cases hcolor : p.color with
  | false => cases c <;> cases c' <;> simpa [Printer.paint, hcolor] using h
  | true =>
    cases c with
    | none =>
      cases c' with
      | none => exact h
      | some c' =>
        obtain ⟨code, hcode, -⟩ := hstart c'
        have hlist := congrArg (·.toList.head?) h
        simp [Printer.paint, hcolor, hcode] at hlist
        exact absurd hlist hm
    | some c =>
      obtain ⟨code, hcode, hlength⟩ := hstart c
      cases c' with
      | none =>
        have hlist := congrArg (·.toList.head?) h
        simp [Printer.paint, hcolor, hcode] at hlist
        exact absurd hlist.symm hm'
      | some c' =>
        -- The sequences that start a color have one length, so they come off on both sides.
        obtain ⟨code', hcode', hlength'⟩ := hstart c'
        have hlist := congrArg String.toList h
        simp only [Printer.paint, hcolor, if_true, String.toList_append, hcode, hcode',
          List.append_assoc, List.cons_append, List.cons.injEq, true_and] at hlist
        have hrest := (List.append_inj hlist (hlength.trans hlength'.symm)).2
        exact String.toList_inj.mp (List.append_cancel_right hrest)

/-- Nothing else is printed like a green line. -/
theorem eq_of_text_eq {l l' : StatusLine} (hl : l.IsUsual) (hl' : l'.IsUsual)
    (hgreen : l'.color = some .green) (h : l.text p s = l'.text p s) : l = l' := by
  obtain ⟨c, hc, hhead⟩ := head?_message hl s
  obtain ⟨c', hc', hhead'⟩ := head?_message hl' s
  have hplain : ∀ l : StatusLine, '\x1b' ∉ l.initials := by
    intro l
    cases l <;> simp [initials]
  have hmessage : l.message s = l'.message s := by
    refine eq_of_paint_eq ?_ ?_ h
    · rw [hhead]
      rintro ⟨⟩
      exact hplain l hc
    · rw [hhead']
      rintro ⟨⟩
      exact hplain l' hc'
  have hsame : c = c' := by
    rw [hmessage, hhead'] at hhead
    exact (Option.some.inj hhead).symm
  subst hsame
  -- The first character tells what kind of line it is; passes of checks differ in their messages.
  cases l' with
  | headline => cases hgreen
  | advisory check a => cases hgreen
  | violation check v => cases hgreen
  | accepted =>
    simp only [initials, List.mem_singleton] at hc'
    subst hc'
    cases l <;> simp [initials] at hc ⊢
  | allPassed =>
    simp only [initials, List.mem_singleton] at hc'
    subst hc'
    cases l <;> simp [initials] at hc ⊢
  | success check' text' =>
    have hown : ∀ a ∈ announcements, ∀ b ∈ announcements, a.2 = b.2 → a = b := by decide
    cases l with
    | success check text =>
      obtain ⟨rfl, rfl⟩ := Prod.mk.inj (hown _ hl _ hl' hmessage)
      rfl
    | _ => rcases List.mem_pair.mp hc' with rfl | rfl <;> simp [initials] at hc

end StatusLine

namespace Printing

open Git StatusLine
open Steering (Past)

variable {α β : Type}

def spoken (log : Past) : List String := Outcome.outputLines (log.flatMap seen)

theorem spoken_append (log more : Past) :
    spoken (log ++ more) = spoken log ++ spoken more := by
  simp [spoken, Outcome.outputLines]

theorem spoken_effects (effects : List Effect) :
    spoken (effects.map .inr) = Outcome.outputLines effects := by
  induction effects with
  | nil => rfl
  | cons effect effects ih => cases effect <;> first | exact ih | exact congrArg (_ :: ·) ih

theorem outputLines_said (lines : List String) : Outcome.outputLines (lines.map .said) = lines := by
  induction lines with
  | nil => rfl
  | cons line lines ih => exact congrArg (line :: ·) ih

theorem outputLines_madeFolder (made : List Path) :
    Outcome.outputLines (made.map .madeFolder) = [] := by
  induction made with
  | nil => rfl
  | cons path made ih => exact ih

/-- Conversations that print nothing, each beside itself. -/
def quiet : Coupling (Conversation Execution Effect) (Conversation Execution Effect) where
  couples S x y := ∀ past, spoken (x past).log = [] ∧
    Agree S (x past).result (y past).result ∧ (y past).log = (x past).log
  pure h _ := ⟨rfl, .ok h, rfl⟩
  fail _ e _ := ⟨rfl, .error e, rfl⟩
  bind {_ _ _ _ _ _ x y _ _} hxy hfg past := by
    obtain ⟨hquiet, hresult, hlog⟩ := hxy past
    rw [Conversation.bind_apply, Conversation.bind_apply, hlog]
    generalize x past = cx, y past = cy at *
    obtain ⟨log, rx⟩ := cx
    obtain ⟨log', ry⟩ := cy
    cases hresult with
    | error e => exact ⟨hquiet, .error e, hlog⟩
    | ok hab =>
      obtain ⟨hquiet', hresult', hlog'⟩ := hfg _ _ hab (past ++ log)
      rw [Traced.bind_of_ok rfl, Traced.bind_of_ok rfl]
      refine ⟨?_, hresult', congrArg₂ _ hlog hlog'⟩
      rw [spoken_append, hquiet, hquiet', List.append_nil]

theorem quiet_effects {effects : List Effect} (h : Outcome.outputLines effects = []) :
    quiet.couples Eq (Tracing.emitAll effects) (Tracing.emitAll effects) :=
  fun _ => ⟨(spoken_effects effects).trans h, .ok rfl, rfl⟩

theorem quiet_shell (git : Oracle) (failure : String) (command : Command) :
    quiet.couples Eq (git.shell failure command) (git.shell failure command) := by
  refine fun past => ⟨?_, agree_eq_iff.mpr rfl, rfl⟩
  change spoken [.inl ⟨command, (git past).answer command⟩] = []
  cases (git past).answer command <;> rfl

theorem quiet_connectWith (git : Oracle) (m : Machine) (s : Settings) (index : ReleaseIndex) :
    quiet.couples (quiet.Answers index) (Audit.connectWith git m s)
      (Audit.connectWith git m s) := by
  refine quiet.bind (Coupling.couples_openOrClone (fun _ => quiet_shell git _ _)
    (fun made => quiet_effects (outputLines_madeFolder made)) (fun _ => quiet_effects rfl)
    (fun _ _ _ => quiet_shell git _ _)) ?_
  rintro c _ ⟨-, rfl⟩
  exact quiet.pure (Coupling.answers_access (fun _ _ => quiet_shell git _ _)
    (fun _ => quiet_effects rfl) index)

/-- Whenever the conversation comes to a value, `S` relates it to the lines printed on the way. -/
def Tells (x : Conversation Execution Effect α) (S : α → List String → Prop) : Prop :=
  ∀ past a, (x past).result = .ok a → S a (spoken (x past).log)

section Rules

variable {S : α → List String → Prop} {T : β → List String → Prop}
  {x : Conversation Execution Effect α} {f : α → Conversation Execution Effect β}

theorem tells_pure {a : α} (h : S a []) : Tells (pure a) S := by
  rintro past _ ⟨⟩
  exact h

theorem tells_sayAll {S : Unit → List String → Prop} {lines : List String} (h : S () lines) :
    Tells (Audit.sayAll lines) S := by
  rintro past _ ⟨⟩
  change S () (spoken ((lines.map .said).map .inr))
  rwa [spoken_effects, outputLines_said]

theorem tells_ofExcept (result : Except Fault α) :
    Tells (Tracing.ofExcept result) fun a lines => result = .ok a ∧ lines = [] := by
  intro past a ha
  rw [Conversation.ofExcept_apply] at ha ⊢
  exact ⟨ha, rfl⟩

theorem Tells.and {S' : α → List String → Prop} (hx : Tells x S) (hx' : Tells x S') :
    Tells x fun a lines => S a lines ∧ S' a lines :=
  fun past a ha => ⟨hx past a ha, hx' past a ha⟩

/-- The lines of the second part come behind those of the first. -/
theorem Tells.bind (hx : Tells x S)
    (hf : ∀ a lines, S a lines → Tells (f a) fun b more => T b (lines ++ more)) :
    Tells (x >>= f) T := by
  intro past b hb
  rw [Conversation.bind_apply] at hb ⊢
  obtain ⟨a, ha, hb⟩ := Traced.result_bind_eq_ok.mp hb
  rw [Traced.bind_of_ok ha, spoken_append]
  exact hf a _ (hx past a ha) _ b hb

theorem tells_of_quiet {S : α → α → Prop} (hx : quiet.couples S x x) :
    Tells x fun _ lines => lines = [] :=
  fun past _ _ => (hx past).1

theorem tells_answers {index : ReleaseIndex}
    {connect : Conversation Execution Effect (Access (Conversation Execution Effect))}
    (h : quiet.couples (quiet.Answers index) connect connect) :
    Tells connect fun a lines => lines = [] ∧ quiet.Answers index a a := by
  intro past a ha
  obtain ⟨hquiet, hresult, -⟩ := h past
  rw [ha] at hresult
  cases hresult with
  | ok h => exact ⟨hquiet, h⟩

end Rules

def label (r : CheckResult) : String × String := (r.checkName, r.message)

theorem label_ofIndex (name description passMessage : String) (entries : ReleaseIndex → List α)
    (judge : α → Option Violation) (scope : Scope (Conversation Execution Effect)) :
    Tells ((Rule.ofIndex name description passMessage entries judge).run scope)
      fun r _ => label r = (name, passMessage) := by
  refine Tells.bind (S := fun _ _ => True) (fun _ _ _ => trivial) fun found lines _ => ?_
  exact tells_pure rfl

theorem label_ofVersions (name description passMessage : String)
    (judge : Access (Conversation Execution Effect) → Release × Version →
      Conversation Execution Effect (Option Finding))
    (scope : Scope (Conversation Execution Effect)) :
    Tells ((Rule.ofVersions name description passMessage judge).run scope)
      fun r _ => label r = (name, passMessage) := by
  refine Tells.bind (S := fun _ _ => True) (fun _ _ _ => trivial) fun repository lines _ => ?_
  refine Tells.bind (S := fun _ _ => True) (fun _ _ _ => trivial) fun found more _ => ?_
  exact tells_pure rfl

/-- A check that prints nothing itself and whose results have the label `a`. -/
def Reports (scope : Scope (Conversation Execution Effect))
    (c : Rule (Conversation Execution Effect)) (a : String × String) : Prop :=
  Tells (c.run scope) fun r lines => lines = [] ∧ label r = a

theorem reports_standardChecks (index : ReleaseIndex) (mode : Mode)
    {repository : Option (Access (Conversation Execution Effect))}
    (h : Option.Rel (quiet.Answers index) repository repository) :
    List.Forall₂ (Reports ⟨index, mode, repository⟩) standardChecks announcements := by
  have hlabels : List.Forall₂ (fun c a => Tells (c.run ⟨index, mode, repository⟩)
      fun r _ => label r = a) standardChecks announcements :=
    .cons (label_ofIndex _ _ _ _ _ _) <| .cons (label_ofIndex _ _ _ _ _ _) <|
      .cons (label_ofIndex _ _ _ _ _ _) <| .cons (label_ofVersions _ _ _ _ _) <|
      .cons (label_ofVersions _ _ _ _ _) <| .cons (label_ofVersions _ _ _ _ _) .nil
  have hquiet : ∀ c ∈ standardChecks, quiet.Pairs index c c :=
    List.forall₂_same.mp Coupling.pairs_standardChecks
  refine ((List.forall₂_and_left _ _).mpr ⟨hquiet, hlabels⟩).imp ?_
  rintro c a ⟨hc, hlabel⟩
  exact (tells_of_quiet (hc.run mode h)).and hlabel

section Checks

variable {p : Printer} {scope : Scope (Conversation Execution Effect)}

theorem tells_runInOrder {cs : List (Rule (Conversation Execution Effect))}
    {as : List (String × String)} (h : List.Forall₂ (Reports scope) cs as) :
    Tells (runInOrder scope (fun r => (p.report r).map .said) cs) fun results lines =>
      lines = results.flatMap p.report ∧ results.map label <+: as := by
  induction h with
  | nil => exact tells_pure ⟨rfl, List.prefix_rfl⟩
  | cons hc _ ih =>
    refine hc.bind ?_
    rintro r _ ⟨rfl, rfl⟩
    refine (tells_sayAll (S := fun _ lines => lines = p.report r) rfl).bind ?_
    rintro _ _ rfl
    split
    · exact tells_pure ⟨by simp, by simp⟩
    · refine ih.bind ?_
      rintro rest _ ⟨rfl, hrest⟩
      exact tells_pure ⟨by simp, by simpa using hrest⟩

theorem tells_runChecks {index : ReleaseIndex} (mode : Mode)
    {connect : Conversation Execution Effect (Access (Conversation Execution Effect))}
    (hconnect : quiet.couples (quiet.Answers index) connect connect) :
    Tells (runChecks index mode (fun r => (p.report r).map .said) connect) fun results lines =>
      lines = results.flatMap p.report ∧ (results.map label).Sublist announcements := by
  -- The first three checks are those of the index alone.
  have hcut : announcements = announcements.take 3 ++ announcements.drop 3 :=
    (List.take_append_drop 3 announcements).symm
  have hmanifest := tells_runInOrder (p := p)
    (List.forall₂_take 3 (reports_standardChecks index mode .none))
  refine hmanifest.bind ?_
  rintro first _ ⟨rfl, hfirst⟩
  split
  · exact tells_pure ⟨by simp, hfirst.sublist.trans (List.take_sublist 3 announcements)⟩
  · refine (tells_answers hconnect).bind ?_
    rintro repository _ ⟨rfl, hrepository⟩
    refine (tells_of_quiet hrepository.fetch).bind ?_
    rintro _ _ rfl
    refine (tells_of_quiet hrepository.ensureBranches).bind ?_
    rintro _ _ rfl
    have hresolution := tells_runInOrder (p := p)
      (List.forall₂_drop 3 (reports_standardChecks index mode (.some hrepository)))
    refine hresolution.bind ?_
    rintro second _ ⟨rfl, hsecond⟩
    refine tells_pure ⟨by simp, ?_⟩
    rw [List.map_append, hcut]
    exact hfirst.sublist.append hsecond.sublist

end Checks

section Runs

variable (git : Oracle) (m : Machine) (s : Settings)

def audited : Conversation Execution Effect (ReleaseIndex × List CheckResult) := do
  Audit.sayAll (m.printer.info (Audit.headline s))
  let index ← Tracing.ofExcept (Audit.loadIndex m.files s)
  Audit.sayAll (m.printer.success "Schema validation passed")
  let results ← runChecks index s.mode (fun r => (m.printer.report r).map .said)
    (Audit.connectWith git m s)
  return (index, results)

/-- What is left to do with the results. There is no report for machines. -/
def concluded (index : ReleaseIndex) (results : List CheckResult) :
    Conversation Execution Effect Unit := do
  Audit.sayAll (Audit.reportLines false index s.mode results)
  Tracing.ofExcept (finish (collectViolations results) s.mode)
  Audit.sayAll (m.printer.success "✅ All checks passed")

def outcome (past : Past) : Outcome :=
  let talk := Audit.runWith git m s false past
  .ofTraced ⟨talk.log.flatMap seen, talk.result⟩

variable {git m s} {past : Past} {index : ReleaseIndex} {results : List CheckResult}

/-- With the git of the machine this is the program. -/
theorem outcome_steady (m : Machine) (s : Settings) :
    outcome (steady m.git) m s [] = .ofTraced (Audit.run m s false) := by
  rw [Audit.run_eq_seen]
  rfl

theorem runWith_eq (git : Oracle) (m : Machine) (s : Settings) :
    Audit.runWith git m s false =
      audited git m s >>= fun found => concluded m s found.1 found.2 := by
  unfold audited
  simp only [Conversation.bind_assoc, Conversation.pure_bind]
  rfl

theorem tells_audited (git : Oracle) (m : Machine) (s : Settings) :
    Tells (audited git m s) fun found lines =>
      lines = ([headline, accepted] ++ found.2.flatMap ofResult).map (text m.printer s) ∧
      (found.2.map label).Sublist announcements := by
  have hreport : ∀ results : List CheckResult, results.flatMap m.printer.report =
      (results.flatMap ofResult).map (text m.printer s) := by
    intro results
    rw [List.map_flatMap]
    congr 1
    funext r
    exact report_eq rfl s r
  refine (tells_sayAll (S := fun _ lines => lines = [text m.printer s .headline]) rfl).bind ?_
  rintro _ _ rfl
  refine (tells_ofExcept _).bind ?_
  rintro index _ ⟨-, rfl⟩
  refine (tells_sayAll (S := fun _ lines => lines = [text m.printer s .accepted]) rfl).bind ?_
  rintro _ _ rfl
  refine (tells_runChecks s.mode (quiet_connectWith git m s index)).bind ?_
  rintro results _ ⟨rfl, hlabels⟩
  refine tells_pure ⟨?_, hlabels⟩
  rw [hreport]
  simp

theorem concluded_apply (index : ReleaseIndex) (results : List CheckResult) (past : Past) :
    concluded m s index results past =
      ⟨(((closing results).map (text m.printer s)).map .said).map .inr,
        finish (collectViolations results) s.mode⟩ := by
  unfold concluded closing
  cases hfound : collectViolations results with
  | nil => rfl
  | cons v vs => cases s.mode <;> rfl

theorem runWith_of_audited (haudited : (audited git m s past).result = .ok (index, results)) :
    spoken (Audit.runWith git m s false past).log = (ofRun results).map (text m.printer s) ∧
    (Audit.runWith git m s false past).result = finish (collectViolations results) s.mode ∧
    (results.map label).Sublist announcements := by
  obtain ⟨hspoken, hlabels⟩ := tells_audited git m s past _ haudited
  rw [runWith_eq, Conversation.bind_apply, Traced.bind_of_ok haudited, concluded_apply]
  refine ⟨?_, rfl, hlabels⟩
  rw [spoken_append, hspoken, spoken_effects, outputLines_said, ← List.map_append]
  rfl

theorem isUsual_of_mem_ofRun (h : (results.map label).Sublist announcements) {l : StatusLine}
    (hl : l ∈ ofRun results) : l.IsUsual := by
  cases l with
  | success check message =>
    obtain ⟨r, hr, -, rfl, rfl⟩ := success_mem_ofRun.mp hl
    exact h.subset (List.mem_map_of_mem hr)
  | _ => trivial

theorem eq_of_checkName_eq (h : (results.map label).Sublist announcements) {r r' : CheckResult}
    (hr : r ∈ results) (hr' : r' ∈ results) (hname : r.checkName = r'.checkName) : r = r' := by
  have hdistinct : (announcements.map Prod.fst).Nodup := by decide
  have hnames : (results.map CheckResult.checkName).Nodup := by
    have hsublist := (h.map Prod.fst).nodup hdistinct
    rwa [List.map_map] at hsublist
  exact List.inj_on_of_nodup_map hnames hr hr' hname

theorem text_mem_iff (h : (results.map label).Sublist announcements) {l : StatusLine}
    (hl : l.IsUsual) (hgreen : l.color = some .green) {p : Printer} :
    l.text p s ∈ (ofRun results).map (text p s) ↔ l ∈ ofRun results := by
  constructor
  · intro hmem
    obtain ⟨l', hl', htext⟩ := List.mem_map.mp hmem
    have hsame := eq_of_text_eq (isUsual_of_mem_ofRun h hl') hl hgreen htext
    rwa [hsame] at hl'
  · exact List.mem_map_of_mem

/-- The success message of a check that has run is there exactly if there are no violations. -/
theorem success_mem_iff (h : (results.map label).Sublist announcements) {r : CheckResult}
    (hr : r ∈ results) : success r.checkName r.message ∈ ofRun results ↔ r.violations = [] := by
  rw [success_mem_ofRun]
  constructor
  · rintro ⟨r', hr', hnone, hname, -⟩
    rwa [eq_of_checkName_eq h hr' hr hname] at hnone
  · exact fun hnone => ⟨r, hr, hnone, rfl, rfl⟩

theorem violation_notMem_of_success (h : (results.map label).Sublist announcements)
    {check message : String} (hsuccess : success check message ∈ ofRun results) (v : Violation) :
    violation check v ∉ ofRun results := by
  intro hviolation
  obtain ⟨r, hr, hnone, hname, -⟩ := success_mem_ofRun.mp hsuccess
  obtain ⟨r', hr', hv, hname'⟩ := violation_mem_ofRun.mp hviolation
  have hsame := eq_of_checkName_eq h hr hr' (hname.trans hname'.symm)
  rw [← hsame, hnone] at hv
  cases hv

/-- The lines of a run that has come to results, beside its outcome. -/
structure Complete (p : Printer) (s : Settings) (results : List CheckResult) (o : Outcome) :
    Prop where
  printed : Outcome.outputLines o.log = (ofRun results).map (text p s)
  /-- There is a line for each violation, as often as it was found. -/
  violations : (ofRun results).filterMap violation? = collectViolations results
  violation_count : ∀ v, (collectViolations results).count v ≤
    (Outcome.outputLines o.log).count (p.paint (some .red) v.message)
  carried : ∀ f, o.fault = some f → f.carried ≠ [] ∧ f.carried <+: collectViolations results ∧
    (s.mode = .batch → f.carried = collectViolations results)
  apart : ∀ check message v,
    success check message ∈ ofRun results → violation check v ∉ ofRun results
  success_mem_iff : ∀ r ∈ results,
    p.paint (some .green) r.message ∈ Outcome.outputLines o.log ↔ r.violations = []
  allPassed_mem_iff :
    p.paint (some .green) "✅ All checks passed" ∈ Outcome.outputLines o.log ↔ o.status = 0

theorem result_of_fault {x : Traced Effect Unit} {f : Fault}
    (h : (Outcome.ofTraced x).fault = some f) : x.result = .error f := by
  unfold Outcome.ofTraced at h
  split at h
  · cases h
  · next hresult =>
    cases h
    exact hresult

theorem carried_finish {violations : List Violation} {mode : Mode} {f : Fault}
    (h : finish violations mode = .error f) : f.carried ≠ [] ∧ f.carried <+: violations ∧
      (mode = .batch → f.carried = violations) := by
  cases violations with
  | nil => cases h
  | cons v vs =>
    cases mode with
    | failFast =>
      cases h
      exact ⟨List.cons_ne_nil _ _, ⟨vs, rfl⟩, nofun⟩
    | batch =>
      cases h
      exact ⟨List.cons_ne_nil _ _, List.prefix_rfl, fun _ => rfl⟩

/-- Whatever git answers, a run that comes to results prints what they say, line by line. -/
theorem status_lines_complete (git : Oracle) (m : Machine) (s : Settings) (past : Past)
    (index : ReleaseIndex) (results : List CheckResult)
    (haudited : (audited git m s past).result = .ok (index, results)) :
    Complete m.printer s results (outcome git m s past) := by
  obtain ⟨hspoken, hresult, hlabels⟩ := runWith_of_audited haudited
  have hprinted : Outcome.outputLines (outcome git m s past).log =
      (ofRun results).map (text m.printer s) := by
    rw [outcome, Output.log_ofTraced]
    exact hspoken
  have hstatus : (outcome git m s past).status = 0 ↔ allPassed ∈ ofRun results := by
    rw [outcome, Output.status_ofTraced_eq_zero_iff, hresult, Verdict.finish_eq_ok_iff,
      allPassed_mem_ofRun]
  constructor
  case printed => exact hprinted
  case violations => exact filterMap_violation?_ofRun results
  case violation_count =>
    intro v
    rw [hprinted]
    exact count_violation_le m.printer s results v
  case carried =>
    intro f hf
    refine carried_finish ?_
    rw [← hresult]
    exact result_of_fault hf
  case apart => exact fun check message v hsuccess => violation_notMem_of_success hlabels hsuccess v
  case success_mem_iff =>
    intro r hr
    have husual : (success r.checkName r.message).IsUsual :=
      hlabels.subset (List.mem_map_of_mem hr)
    rw [hprinted, ← success_mem_iff hlabels hr]
    exact text_mem_iff hlabels husual rfl
  case allPassed_mem_iff =>
    rw [hprinted, hstatus]
    exact text_mem_iff (l := allPassed) hlabels trivial rfl

end Runs

section Samples

open Reporting (sampleSettings sampleIndex)
open Isolation (sampleMachine)

def sampleResults : List CheckResult :=
  [⟨"base-version", "All releases have a base version",
      [.missingBaseVersion "rc--2024-05-04_09-30"], []⟩,
    ⟨"unique-version-names", "All version names are unique within the respective releases", [], []⟩,
    ⟨"rc-order", "All RCs are ordered descending by date", [], []⟩,
    ⟨"commit-existence", "All commits exist", [.commitNotFound "4f2e1c"], []⟩,
    ⟨"branch-membership", "All versions are on the correct branches", [], []⟩,
    ⟨"tag-consistency", "Finished tag consistency check", [],
      [.tagMissing "release-2024-05-04_09-30-edge"]⟩]

theorem audited_sample :
    (audited (steady sampleMachine.git) sampleMachine sampleSettings []).result =
      .ok (sampleIndex, sampleResults) := by
  generalize hresult :
    (audited (steady sampleMachine.git) sampleMachine sampleSettings []).result = result
  have hsome : result.toOption = some (sampleIndex, sampleResults) := by
    rw [← hresult]
    decide +kernel
  cases result with
  | error e => cases hsome
  | ok found => rw [Option.some.inj hsome]

theorem status_lines_complete_sample :
    let o := outcome (steady sampleMachine.git) sampleMachine sampleSettings []
    Complete sampleMachine.printer sampleSettings sampleResults o ∧
    Outcome.outputLines o.log =
      ["🔍 Checking release index at /index.json against schema at /schema.json and repo at /cache",
        "Schema validation passed", "Release rc--2024-05-04_09-30 does not have a base version",
        "All version names are unique within the respective releases",
        "All RCs are ordered descending by date", "Commit 4f2e1c does not exist",
        "All versions are on the correct branches",
        "Tag release-2024-05-04_09-30-edge does not exist", "Finished tag consistency check"] := by
  intro o
  have hcomplete := status_lines_complete _ _ _ _ _ _ audited_sample
  refine ⟨hcomplete, ?_⟩
  rw [hcomplete.printed]
  decide +kernel

end Samples

end Printing
end ReleaseAudit

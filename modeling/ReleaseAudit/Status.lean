import ReleaseAudit.Finding

/-! Status lines: one per finding, in color where the output can show it. -/
namespace ReleaseAudit

inductive Color where
  | green | yellow | red
  deriving DecidableEq, Repr

def Color.start : Color → String
  | .green => "\x1b[32m"
  | .yellow => "\x1b[33m"
  | .red => "\x1b[31m"

def colorEnd : String := "\x1b[0m"

/-- How status lines are printed: in color or not, or not at all. -/
structure Printer where
  color : Bool
  quiet : Bool
  deriving DecidableEq, Repr

namespace Printer

def silent : Printer := ⟨false, true⟩

/-- Color is for terminals whose user has not switched it off. -/
def detect (isTerminal noColor : Bool) : Printer := ⟨isTerminal && !noColor, false⟩

def paint (p : Printer) (color : Option Color) (message : String) : String :=
  match color with
  | some c => if p.color then c.start ++ message ++ colorEnd else message
  | none => message

def line (p : Printer) (color : Option Color) (message : String) : List String :=
  if p.quiet then [] else [p.paint color message]

def info (p : Printer) (message : String) : List String := p.line none message

def success (p : Printer) (message : String) : List String := p.line (some .green) message

def warning (p : Printer) (message : String) : List String := p.line (some .yellow) message

def error (p : Printer) (message : String) : List String := p.line (some .red) message

/-- The lines of a check result: its advisories, then its violations or its success message. -/
def report (p : Printer) (r : CheckResult) : List String :=
  r.advisories.flatMap (fun a => p.warning a.message) ++
    match r.severity with
    | .error => r.violations.flatMap fun v => p.error v.message
    | .warning | .info => p.success r.message

@[simp] theorem line_silent (color : Option Color) (message : String) :
    silent.line color message = [] := rfl

theorem report_silent (r : CheckResult) : silent.report r = [] := by
  unfold report
  split <;> simp [warning, success, error]

theorem report_of_passed (p : Printer) {r : CheckResult} (h : r.passed = true) :
    p.report r = r.advisories.flatMap (fun a => p.warning a.message) ++ p.success r.message := by
  have hseverity : r.severity ≠ .error := by simp [CheckResult.severity_eq_error_iff, h]
  unfold report
  cases hr : r.severity with
  | error => exact absurd hr hseverity
  | warning => rfl
  | info => rfl

theorem report_of_not_passed (p : Printer) {r : CheckResult} (h : r.passed = false) :
    p.report r = r.advisories.flatMap (fun a => p.warning a.message) ++
      r.violations.flatMap fun v => p.error v.message := by
  rw [report, CheckResult.severity_eq_error_iff.mpr h]

end Printer
end ReleaseAudit

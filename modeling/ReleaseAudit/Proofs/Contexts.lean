import ReleaseAudit.Traced

/-! Lines that are added to a fault on its way out, one after the other. They stand behind what the
fault says, the last one first, and leave everything else about it as it is. -/
namespace ReleaseAudit
namespace Contexts

variable {α : Type}

def addAll (e : Fault) (lines : List String) : Fault := lines.foldl (fun f line => f.context line) e

def addAllTo (x : Except Fault α) (lines : List String) : Except Fault α :=
  lines.foldl (fun x line => x.mapError (Fault.context line)) x

/-- What a fault with room for lines says first, and the lines that it has. -/
def parts? : Fault → Option (String × List String)
  | .message base lines _ => some (base, lines)
  | .system e => some ("I/O error: " ++ e.message, [])
  | _ => none

theorem text_of_parts? {f : Fault} {base : String} {lines : List String}
    (h : parts? f = some (base, lines)) : f.text = base ++ Fault.listed "\n" lines := by
  cases f with
  | message base' lines' help =>
    cases h
    rfl
  | system e =>
    cases h
    exact (String.append_empty).symm
  | _ => cases h

theorem parts?_context (f : Fault) (line : String) :
    parts? (f.context line) = (parts? f).map fun p => (p.1, line :: p.2) := by
  cases f <;> rfl

theorem context_of_parts?_eq_none {f : Fault} (h : parts? f = none) (line : String) :
    f.context line = f := by
  cases f with
  | message base lines help => cases h
  | system e => cases h
  | _ => rfl

theorem parts?_addAll (e : Fault) (lines : List String) :
    parts? (addAll e lines) = (parts? e).map fun p => (p.1, lines.reverse ++ p.2) := by
  induction lines generalizing e with
  | nil =>
    change parts? e = (parts? e).map fun p => (p.1, p.2)
    simp
  | cons line lines ih =>
    have hstep := ih (e.context line)
    rw [parts?_context, Option.map_map] at hstep
    simpa [addAll, Function.comp_def] using hstep

theorem addAll_of_parts?_eq_none {e : Fault} (h : parts? e = none) (lines : List String) :
    addAll e lines = e := by
  induction lines with
  | nil => rfl
  | cons line lines ih =>
    change addAll (e.context line) lines = e
    rw [context_of_parts?_eq_none h, ih]

theorem help_addAll (e : Fault) (lines : List String) : (addAll e lines).help = e.help := by
  induction lines generalizing e with
  | nil => rfl
  | cons line lines ih => exact (ih (e.context line)).trans (Fault.help_context line e)

theorem carried_addAll (e : Fault) (lines : List String) :
    (addAll e lines).carried = e.carried := by
  induction lines generalizing e with
  | nil => rfl
  | cons line lines ih => exact (ih (e.context line)).trans (Fault.carried_context line e)

/-- The first line drops the error of the system, and none of the later ones brings it back. -/
theorem source_addAll {lines : List String} (h : lines ≠ []) (e : Fault) :
    (addAll e lines).source = none := by
  induction lines generalizing e with
  | nil => exact absurd rfl h
  | cons line lines ih =>
    by_cases hlast : lines = []
    · subst hlast
      exact Fault.source_context line e
    · exact ih hlast (e.context line)

theorem addAllTo_error (e : Fault) (lines : List String) :
    addAllTo (.error e : Except Fault α) lines = .error (addAll e lines) := by
  induction lines generalizing e with
  | nil => rfl
  | cons line lines ih => exact ih (e.context line)

theorem addAllTo_ok (a : α) (lines : List String) : addAllTo (.ok a) lines = .ok a := by
  induction lines with
  | nil => rfl
  | cons line lines ih => exact ih

/-- The fault `f` is `e` with the lines `added`, if `e` has room for lines. -/
structure Extends (e : Fault) (added : List String) (f : Fault) : Prop where
  /-- The line that was added last comes first, and those that were there before come last. -/
  text : ∀ base old, parts? e = some (base, old) →
    f.text = base ++ Fault.listed "\n" (added.reverse ++ old)
  unchanged : parts? e = none → f = e
  help : f.help = e.help
  exitCode : f.exitCode = e.exitCode
  carried : f.carried = e.carried
  source : added ≠ [] → f.source = none

/-- Lines that are added to a fault stand behind what it says, and change nothing else about it. A
computation that does not fail has no use for them. -/
theorem addAll_extends (e : Fault) (lines : List String) :
    Extends e lines (addAll e lines) ∧
    ∀ α : Type, addAllTo (.error e : Except Fault α) lines = .error (addAll e lines) ∧
      ∀ a : α, addAllTo (.ok a) lines = .ok a := by
  refine ⟨?_, fun α => ⟨addAllTo_error e lines, fun a => addAllTo_ok a lines⟩⟩
  constructor
  case text =>
    intro base old hparts
    have hadded : parts? (addAll e lines) = some (base, lines.reverse ++ old) := by
      rw [parts?_addAll, hparts]
      rfl
    exact text_of_parts? hadded
  case unchanged => exact fun h => addAll_of_parts?_eq_none h lines
  case help => exact help_addAll e lines
  case exitCode => rfl
  case carried => exact carried_addAll e lines
  case source => exact fun h => source_addAll h e

example : (addAll (.system .notFound) ["first", "second", "third"]).text =
    "I/O error: No such file or directory (os error 2)\nthird\nsecond\nfirst" := by decide

end Contexts
end ReleaseAudit

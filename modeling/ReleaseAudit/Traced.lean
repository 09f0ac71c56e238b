import ReleaseAudit.Fault

/-! Computations that may fail and that leave a trace of what they did, also when they fail. -/
namespace ReleaseAudit

structure Traced (ε α : Type) where
  log : List ε
  result : Except Fault α

/-- Computations that may fail and that may leave events behind. -/
class Tracing (m : Type → Type) (ε : outParam Type) where
  fail {α : Type} (fault : Fault) : m α
  emitAll (events : List ε) : m Unit

def Tracing.ofExcept {m : Type → Type} {ε α : Type} [Monad m] [Tracing m ε] : Except Fault α → m α
  | .ok a => pure a
  | .error fault => Tracing.fail fault

theorem ok_bind {φ α β : Type} (a : α) (f : α → Except φ β) : Except.ok a >>= f = f a := rfl

theorem bind_eq_ok {φ α β : Type} {x : Except φ α} {f : α → Except φ β} {b : β} :
    x >>= f = .ok b ↔ ∃ a, x = .ok a ∧ f a = .ok b := by
  cases x with
  | error e => exact ⟨nofun, nofun⟩
  | ok a =>
    constructor
    · intro h
      exact ⟨a, rfl, h⟩
    · rintro ⟨_, h, k⟩
      cases h
      exact k

theorem bind_eq_error {φ α β : Type} {x : Except φ α} {f : α → Except φ β} {e : φ} :
    x >>= f = .error e ↔ x = .error e ∨ ∃ a, x = .ok a ∧ f a = .error e := by
  cases x with
  | error e' => simp [bind, Except.bind]
  | ok a => simp [bind, Except.bind]

theorem map_eq_ok {φ α β : Type} {x : Except φ α} {f : α → β} {b : β} :
    x.map f = .ok b ↔ ∃ a, x = .ok a ∧ f a = b := by
  cases x <;> simp [Except.map]

theorem map_eq_error {φ α β : Type} {x : Except φ α} {f : α → β} {e : φ} :
    x.map f = .error e ↔ x = .error e := by
  cases x <;> simp [Except.map]

theorem mapError_eq_ok {φ ψ α : Type} {x : Except φ α} {f : φ → ψ} {a : α} :
    x.mapError f = .ok a ↔ x = .ok a := by
  cases x with
  | error e => exact ⟨nofun, nofun⟩
  | ok b => exact ⟨fun h => congrArg Except.ok (Except.ok.inj h),
      fun h => congrArg Except.ok (Except.ok.inj h)⟩

theorem mapError_eq_error {φ ψ α : Type} {x : Except φ α} {f : φ → ψ} {e : ψ} :
    x.mapError f = .error e ↔ ∃ cause, x = .error cause ∧ f cause = e := by
  cases x with
  | error cause =>
    constructor
    · intro h
      exact ⟨cause, rfl, Except.error.inj h⟩
    · rintro ⟨_, h, rfl⟩
      cases h
      rfl
  | ok a =>
    refine ⟨nofun, ?_⟩
    rintro ⟨_, h, -⟩
    cases h

namespace Traced

variable {ε α β γ : Type}

/-- Carries on with the value of a computation; a failure ends the trace. -/
def andThen (x : Traced ε α) (f : α → Traced ε β) : Traced ε β :=
  match x.result with
  | .ok a => ⟨x.log ++ (f a).log, (f a).result⟩
  | .error e => ⟨x.log, .error e⟩

instance : Monad (Traced ε) where
  pure a := ⟨[], .ok a⟩
  bind := andThen

def emitAll (events : List ε) : Traced ε Unit := ⟨events, .ok ()⟩

def fail (fault : Fault) : Traced ε α := ⟨[], .error fault⟩

def ofExcept (result : Except Fault α) : Traced ε α := ⟨[], result⟩

instance : Tracing (Traced ε) ε := ⟨fail, emitAll⟩

def step (event : ε) (result : Except Fault α) : Traced ε α := ⟨[event], result⟩

/-- A result that leaves an event behind, unless it is a failure. -/
def recorded (record : α → ε) : Except Fault α → Traced ε α
  | .ok a => step (record a) (.ok a)
  | .error fault => fail fault

def mapLog {ε' : Type} (f : ε → ε') (x : Traced ε α) : Traced ε' α := ⟨x.log.map f, x.result⟩

/-- Adds a line to the fault of a computation that fails. -/
def context (line : String) (x : Traced ε α) : Traced ε α :=
  ⟨x.log, x.result.mapError (Fault.context line)⟩

theorem ofExcept_eq (result : Except Fault α) :
    (Tracing.ofExcept result : Traced ε α) = ofExcept result := by
  cases result <;> rfl

@[simp] theorem log_pure (a : α) : (pure a : Traced ε α).log = [] := rfl

@[simp] theorem result_pure (a : α) : (pure a : Traced ε α).result = .ok a := rfl

@[simp] theorem result_step (event : ε) (result : Except Fault α) :
    (step event result).result = result := rfl

@[simp] theorem result_recorded (record : α → ε) (result : Except Fault α) :
    (recorded record result).result = result := by
  cases result <;> rfl

@[simp] theorem result_context (line : String) (x : Traced ε α) :
    (x.context line).result = x.result.mapError (Fault.context line) := rfl

theorem bind_eq (x : Traced ε α) (f : α → Traced ε β) : x >>= f = x.andThen f := rfl

theorem bind_of_ok {x : Traced ε α} {a : α} (h : x.result = .ok a) (f : α → Traced ε β) :
    x >>= f = ⟨x.log ++ (f a).log, (f a).result⟩ := by
  simp [bind_eq, andThen, h]

theorem bind_of_error {x : Traced ε α} {e : Fault} (h : x.result = .error e)
    (f : α → Traced ε β) : x >>= f = ⟨x.log, .error e⟩ := by
  simp [bind_eq, andThen, h]

theorem bind_ofExcept (x : Traced ε α) (f : α → Except Fault β) :
    (x >>= fun a => ofExcept (f a)) = ⟨x.log, x.result >>= f⟩ := by
  cases h : x.result with
  | error e => exact bind_of_error h _
  | ok a =>
    rw [bind_of_ok h]
    exact congrArg (Traced.mk · _) (List.append_nil _)

theorem mem_log_bind_left {x : Traced ε α} {event : ε} (h : event ∈ x.log) (f : α → Traced ε β) :
    event ∈ (x >>= f).log := by
  cases hx : x.result with
  | error e =>
    rw [bind_of_error hx]
    exact h
  | ok a =>
    rw [bind_of_ok hx]
    exact List.mem_append_left _ h

theorem mem_log_bind_right {x : Traced ε α} {a : α} (hx : x.result = .ok a) {f : α → Traced ε β}
    {event : ε} (h : event ∈ (f a).log) : event ∈ (x >>= f).log := by
  rw [bind_of_ok hx]
  exact List.mem_append_right _ h

/-- The result of a computation does not depend on the trace of its parts. -/
theorem result_bind (x : Traced ε α) (f : α → Traced ε β) :
    (x >>= f).result = x.result >>= fun a => (f a).result := by
  cases h : x.result with
  | error e => rw [bind_of_error h]; rfl
  | ok a => rw [bind_of_ok h]; rfl

theorem result_bind_eq_ok {x : Traced ε α} {f : α → Traced ε β} {b : β} :
    (x >>= f).result = .ok b ↔ ∃ a, x.result = .ok a ∧ (f a).result = .ok b := by
  rw [result_bind, bind_eq_ok]

theorem pure_bind (a : α) (f : α → Traced ε β) : (pure a : Traced ε α) >>= f = f a := by
  simp [bind_of_ok (result_pure a)]

theorem bind_pure (x : Traced ε α) : x >>= pure = x := by
  obtain ⟨log, result⟩ := x
  cases result <;> simp [bind_eq, andThen]

theorem bind_assoc (x : Traced ε α) (f : α → Traced ε β) (g : β → Traced ε γ) :
    x >>= f >>= g = x >>= fun a => f a >>= g := by
  obtain ⟨log, result⟩ := x
  cases result with
  | error e => simp [bind_eq, andThen]
  | ok a =>
    simp only [bind_eq, andThen]
    cases (f a).result <;> simp

instance : LawfulMonad (Traced ε) := LawfulMonad.mk' (Traced ε) bind_pure pure_bind bind_assoc

end Traced
end ReleaseAudit

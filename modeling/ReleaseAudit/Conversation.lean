import ReleaseAudit.Traced

/-! Conversations: computations whose partner may answer the same question differently each time. -/
namespace ReleaseAudit

/-- A computation that knows all that happened before it: exchanges and events of another kind. -/
def Conversation (ξ ε α : Type) := List (ξ ⊕ ε) → Traced (ξ ⊕ ε) α

namespace Conversation

variable {ξ ε α β γ : Type}

instance : Monad (Conversation ξ ε) where
  pure a := fun _ => pure a
  bind x f := fun past => x past >>= fun a => f a (past ++ (x past).log)

instance : Tracing (Conversation ξ ε) ε where
  fail fault := fun _ => .fail fault
  emitAll events := fun _ => .emitAll (events.map .inr)

theorem pure_apply (a : α) (past : List (ξ ⊕ ε)) :
    (pure a : Conversation ξ ε α) past = pure a := rfl

theorem bind_apply (x : Conversation ξ ε α) (f : α → Conversation ξ ε β) (past : List (ξ ⊕ ε)) :
    (x >>= f) past = x past >>= fun a => f a (past ++ (x past).log) := rfl

theorem ofExcept_apply (result : Except Fault α) (past : List (ξ ⊕ ε)) :
    (Tracing.ofExcept result : Conversation ξ ε α) past = .ofExcept result := by
  cases result <;> rfl

theorem bind_of_ok {x : Conversation ξ ε α} {past log : List (ξ ⊕ ε)} {a : α}
    (h : x past = ⟨log, .ok a⟩) (f : α → Conversation ξ ε β) :
    (x >>= f) past = ⟨log ++ (f a (past ++ log)).log, (f a (past ++ log)).result⟩ := by
  rw [bind_apply, h, Traced.bind_of_ok rfl]

theorem bind_of_error {x : Conversation ξ ε α} {past log : List (ξ ⊕ ε)} {e : Fault}
    (h : x past = ⟨log, .error e⟩) (f : α → Conversation ξ ε β) :
    (x >>= f) past = ⟨log, .error e⟩ := by
  rw [bind_apply, h, Traced.bind_of_error rfl]

theorem result_bind_of_ok {x : Conversation ξ ε α} {past : List (ξ ⊕ ε)} {a : α}
    (h : (x past).result = .ok a) (f : α → Conversation ξ ε β) :
    ((x >>= f) past).result = (f a (past ++ (x past).log)).result := by
  rw [bind_apply, Traced.bind_of_ok h]

theorem bind_pure_apply (x : Conversation ξ ε α) (f : α → β) (past : List (ξ ⊕ ε)) :
    (x >>= fun a => pure (f a)) past = ⟨(x past).log, (x past).result.map f⟩ := by
  rw [bind_apply]
  cases h : (x past).result with
  | error e => exact Traced.bind_of_error h _
  | ok a =>
    rw [Traced.bind_of_ok h]
    exact congrArg (Traced.mk · _) (List.append_nil _)

theorem bind_pure (x : Conversation ξ ε α) : x >>= pure = x := by
  funext past
  exact Traced.bind_pure (x past)

theorem pure_bind (a : α) (f : α → Conversation ξ ε β) :
    (pure a : Conversation ξ ε α) >>= f = f a := by
  funext past
  rw [bind_apply, pure_apply, Traced.pure_bind, Traced.log_pure, List.append_nil]

theorem result_ofExcept_bind (result : Except Fault α) (f : α → Conversation ξ ε β)
    (past : List (ξ ⊕ ε)) : ((Tracing.ofExcept result >>= f : Conversation ξ ε β) past).result =
      result >>= fun a => (f a past).result := by
  cases result with
  | error e => rfl
  | ok a =>
    change ((pure a >>= f) past).result = _
    rw [pure_bind]
    rfl

theorem bind_assoc (x : Conversation ξ ε α) (f : α → Conversation ξ ε β)
    (g : β → Conversation ξ ε γ) : x >>= f >>= g = x >>= fun a => f a >>= g := by
  funext past
  simp only [bind_apply]
  rw [Traced.bind_assoc]
  cases hx : (x past).result with
  | error e => rw [Traced.bind_of_error hx, Traced.bind_of_error hx]
  | ok a =>
    rw [Traced.bind_of_ok hx, Traced.bind_of_ok hx, Traced.bind_of_ok hx]
    simp only [List.append_assoc]

instance : LawfulMonad (Conversation ξ ε) :=
  LawfulMonad.mk' (Conversation ξ ε) bind_pure pure_bind bind_assoc

end Conversation
end ReleaseAudit

import ReleaseAudit.Check.Battery
import ReleaseAudit.Conversation
import Mathlib.Data.List.Forall2
import Mathlib.Data.Option.Basic

/-! Two runs over the same index side by side. What relates the answers of their repositories, and
is kept when computations are put together, relates the runs. -/
namespace ReleaseAudit

variable {ε δ α β : Type}

/-- Two results that fail alike, or that both come to values which `S` relates. -/
inductive Agree (S : α → β → Prop) : Except Fault α → Except Fault β → Prop
  | ok {a : α} {b : β} (h : S a b) : Agree S (.ok a) (.ok b)
  | error (e : Fault) : Agree S (.error e) (.error e)

theorem agree_eq_iff {x y : Except Fault α} : Agree Eq x y ↔ x = y := by
  constructor
  · intro h
    cases h with
    | ok h => rw [h]
    | error e => rfl
  · rintro rfl
    cases x with
    | ok a => exact .ok rfl
    | error e => exact .error e

theorem Agree.bind {γ κ : Type} {S : α → β → Prop} {T : γ → κ → Prop} {x : Except Fault α}
    {y : Except Fault β} {f : α → Except Fault γ} {g : β → Except Fault κ} (h : Agree S x y)
    (hfg : ∀ a b, S a b → Agree T (f a) (g b)) : Agree T (x >>= f) (y >>= g) := by
  cases h with
  | ok h => exact hfg _ _ h
  | error e => exact .error e

/-- A way to relate computations of two kinds that is kept when they are put together. -/
structure Coupling (m n : Type → Type) [Monad m] [Monad n] [Tracing m ε] [Tracing n δ] where
  couples {α β : Type} (S : α → β → Prop) (x : m α) (y : n β) : Prop
  pure {α β : Type} {S : α → β → Prop} {a : α} {b : β} (h : S a b) : couples S (pure a) (pure b)
  fail {α β : Type} (S : α → β → Prop) (e : Fault) :
    couples S (Tracing.fail e) (Tracing.fail e)
  bind {α β γ κ : Type} {S : α → β → Prop} {T : γ → κ → Prop} {x : m α} {y : n β} {f : α → m γ}
    {g : β → n κ} (hxy : couples S x y) (hfg : ∀ a b, S a b → couples T (f a) (g b)) :
    couples T (x >>= f) (y >>= g)

namespace Coupling

variable {m n : Type → Type} [Monad m] [Monad n] [Tracing m ε] [Tracing n δ] (C : Coupling m n)

/-- Repositories that answer alike what a run over the index asks. -/
structure Answers (index : ReleaseIndex) (a : Access m) (b : Access n) : Prop where
  fetch : C.couples Eq a.fetch b.fetch
  ensureBranches :
    C.couples Eq (a.ensureBranches index.rcNames) (b.ensureBranches index.rcNames)
  reference : ∀ p ∈ index.versions, C.couples Eq (a.lookUp p.2.reference) (b.lookUp p.2.reference)
  tag : ∀ p ∈ index.versions,
    C.couples Eq (a.lookUp (p.1.tagName p.2)) (b.lookUp (p.1.tagName p.2))

/-- The two forms of a rule, which differ in nothing but the repository that they ask. -/
structure Pairs (index : ReleaseIndex) (c : Rule m) (d : Rule n) : Prop where
  stage : c.stage = d.stage
  run : ∀ mode {a : Option (Access m)} {b : Option (Access n)}, Option.Rel (C.Answers index) a b →
    C.couples Eq (c.run ⟨index, mode, a⟩) (d.run ⟨index, mode, b⟩)

variable {C} {index : ReleaseIndex}

theorem refl_pure (a : α) : C.couples Eq (Pure.pure a) (Pure.pure a) := C.pure rfl

theorem bind_eq {x : m α} {y : n α} {f : α → m β} {g : α → n β} (hxy : C.couples Eq x y)
    (hfg : ∀ a, C.couples Eq (f a) (g a)) : C.couples Eq (x >>= f) (y >>= g) := by
  refine C.bind hxy ?_
  rintro a _ rfl
  exact hfg a

theorem couples_sweep (mode : Mode) {look : α → m (Option Finding)} {look' : α → n (Option Finding)}
    {as : List α} (h : ∀ a ∈ as, C.couples Eq (look a) (look' a)) :
    C.couples Eq (sweep mode look as) (sweep mode look' as) := by
  induction as with
  | nil => exact C.refl_pure []
  | cons a as ih =>
    have ih := ih fun b hb => h b (by simp [hb])
    refine C.bind_eq (h a (by simp)) fun found => ?_
    cases found with
    | none => exact ih
    | some f =>
      dsimp only
      split
      · exact C.refl_pure [f]
      · exact C.bind_eq ih fun rest => C.refl_pure (f :: rest)

theorem pairs_ofIndex (name description passMessage : String) (entries : ReleaseIndex → List α)
    (judge : α → Option Violation) :
    C.Pairs index (.ofIndex name description passMessage entries judge)
      (.ofIndex name description passMessage entries judge) where
  stage := rfl
  run mode _ _ _ := C.bind_eq (couples_sweep mode fun _ _ => C.refl_pure _) fun _ => C.refl_pure _

theorem pairs_ofVersions (name description passMessage : String)
    {judge : Access m → Release × Version → m (Option Finding)}
    {judge' : Access n → Release × Version → n (Option Finding)}
    (h : ∀ a b, C.Answers index a b → ∀ p ∈ index.versions,
      C.couples Eq (judge a p) (judge' b p)) :
    C.Pairs index (.ofVersions name description passMessage judge)
      (.ofVersions name description passMessage judge') where
  stage := rfl
  run mode a b hab := by
    have hrepository : C.couples (C.Answers index)
        (Scope.requireRepository ⟨index, mode, a⟩ name)
        (Scope.requireRepository ⟨index, mode, b⟩ name) := by
      cases hab with
      | some hab => exact C.pure hab
      | none => exact C.fail _ _
    refine C.bind hrepository fun a b hab => ?_
    exact C.bind_eq (couples_sweep mode (h a b hab)) fun _ => C.refl_pure _

theorem pairs_commitExistence : C.Pairs index .commitExistence .commitExistence := by
  refine pairs_ofVersions _ _ _ fun a b hab p hp => ?_
  refine C.bind_eq (hab.reference p hp) fun found => ?_
  cases found <;> exact C.refl_pure _

theorem pairs_branchMembership : C.Pairs index .branchMembership .branchMembership := by
  refine pairs_ofVersions _ _ _ fun a b hab p hp => ?_
  refine C.bind_eq (hab.reference p hp) fun found => ?_
  cases found with
  | none => exact C.refl_pure _
  | some commit =>
    dsimp only
    split <;> exact C.refl_pure _

theorem pairs_tagConsistency : C.Pairs index .tagConsistency .tagConsistency := by
  refine pairs_ofVersions _ _ _ fun a b hab p hp => ?_
  refine C.bind_eq (hab.tag p hp) fun tag => ?_
  cases tag with
  | none => exact C.refl_pure _
  | some tag =>
    refine C.bind_eq (hab.reference p hp) fun found => ?_
    cases found with
    | none => exact C.refl_pure _
    | some commit =>
      dsimp only
      split <;> exact C.refl_pure _

theorem pairs_standardChecks : List.Forall₂ (C.Pairs index) standardChecks standardChecks :=
  .cons (pairs_ofIndex _ _ _ _ _) <| .cons (pairs_ofIndex _ _ _ _ _) <|
    .cons (pairs_ofIndex _ _ _ _ _) <| .cons pairs_commitExistence <|
    .cons pairs_branchMembership <| .cons pairs_tagConsistency .nil

section Runs

variable {observe : CheckResult → List ε} {observe' : CheckResult → List δ}
  (hobserve : ∀ r, C.couples Eq (Tracing.emitAll (observe r)) (Tracing.emitAll (observe' r)))
include hobserve

theorem couples_runInOrder (mode : Mode) {a : Option (Access m)} {b : Option (Access n)}
    (hab : Option.Rel (C.Answers index) a b) {cs : List (Rule m)} {ds : List (Rule n)}
    (h : List.Forall₂ (C.Pairs index) cs ds) :
    C.couples Eq (runInOrder ⟨index, mode, a⟩ observe cs)
      (runInOrder ⟨index, mode, b⟩ observe' ds) := by
  induction h with
  | nil => exact C.refl_pure []
  | cons hcd _ ih =>
    refine C.bind_eq (hcd.run mode hab) fun r => ?_
    refine C.bind_eq (hobserve r) fun _ => ?_
    dsimp only
    split
    · exact C.refl_pure [r]
    · exact C.bind_eq ih fun rest => C.refl_pure (r :: rest)

theorem couples_runStage (stage : Stage) (mode : Mode) {a : Option (Access m)}
    {b : Option (Access n)} (hab : Option.Rel (C.Answers index) a b) :
    C.couples Eq (runStage standardChecks stage ⟨index, mode, a⟩ observe)
      (runStage standardChecks stage ⟨index, mode, b⟩ observe') := by
  refine couples_runInOrder hobserve mode hab ?_
  exact List.rel_filter (fun c d hcd => by simp [hcd.stage]) pairs_standardChecks

/-- Runs over repositories that answer alike what the index makes them ask. -/
theorem couples_runChecks (mode : Mode) {connect : m (Access m)} {connect' : n (Access n)}
    (hconnect : C.couples (C.Answers index) connect connect') :
    C.couples Eq (runChecks index mode observe connect)
      (runChecks index mode observe' connect') := by
  refine C.bind_eq (couples_runStage hobserve .manifest mode .none) fun first => ?_
  split
  · exact C.refl_pure first
  · refine C.bind hconnect fun a b hab => ?_
    refine C.bind_eq hab.fetch fun _ => C.bind_eq hab.ensureBranches fun _ => ?_
    refine C.bind_eq (couples_runStage hobserve .repository mode (.some hab)) fun second => ?_
    exact C.refl_pure (first ++ second)

end Runs

def results : Coupling (Traced ε) (Traced δ) where
  couples S x y := Agree S x.result y.result
  pure := .ok
  fail _ e := .error e
  bind hxy hfg := by
    rw [Traced.result_bind, Traced.result_bind]
    exact hxy.bind hfg

/-- The results agree, and the one trace is the other with each event turned into some others. -/
def translating (f : ε → List δ) : Coupling (Traced ε) (Traced δ) where
  couples S x y := Agree S x.result y.result ∧ y.log = x.log.flatMap f
  pure h := ⟨.ok h, rfl⟩
  fail _ e := ⟨.error e, rfl⟩
  bind {_ _ _ _ S T x y f' g} hxy hfg := by
    obtain ⟨hresult, hlog⟩ := hxy
    obtain ⟨l, rx⟩ := x
    obtain ⟨k, ry⟩ := y
    cases hresult with
    | error e => exact ⟨.error e, hlog⟩
    | ok h =>
      obtain ⟨hrest, hlog'⟩ := hfg _ _ h
      rw [Traced.bind_of_ok rfl, Traced.bind_of_ok rfl]
      refine ⟨hrest, ?_⟩
      rw [List.flatMap_append, hlog']
      exact congrArg (· ++ _) hlog

/-- Conversations that are related to a computation whatever happened before. -/
def always {ξ : Type} (C : Coupling (Traced (ξ ⊕ ε)) n) : Coupling (Conversation ξ ε) n where
  couples S x y := ∀ past, C.couples S (x past) y
  pure h _ := C.pure h
  fail S e _ := C.fail S e
  bind hxy hfg past := C.bind (hxy past) fun a b hab => hfg a b hab _

end Coupling
end ReleaseAudit

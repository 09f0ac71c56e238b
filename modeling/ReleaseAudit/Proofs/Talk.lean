import ReleaseAudit.Repository.Dialogue
import Mathlib.Computability.Language

/-! Computations that have a talk of a given language with a repository. One that stops early, or
of which a question fails, has the beginning of such a talk. -/
namespace ReleaseAudit
namespace Talk

variable {ε α β : Type}

def exchanges (x : Traced (Exchange ⊕ ε) α) : List Exchange := x.log.filterMap Sum.getLeft?

def actions (x : Traced (Exchange ⊕ ε) α) : List Action := (exchanges x).map (·.action)

@[simp] theorem exchanges_pure (a : α) : exchanges (pure a : Traced (Exchange ⊕ ε) α) = [] := rfl

@[simp] theorem exchanges_emitAll (events : List ε) (past : List (Exchange ⊕ ε)) :
    exchanges ((Tracing.emitAll events : Dialogue ε Unit) past) = [] := by
  induction events with
  | nil => rfl
  | cons event events ih => exact ih

theorem exchanges_bind_of_ok {x : Traced (Exchange ⊕ ε) α} {a : α} (hx : x.result = .ok a)
    (f : α → Traced (Exchange ⊕ ε) β) : exchanges (x >>= f) = exchanges x ++ exchanges (f a) := by
  rw [Traced.bind_of_ok hx]
  exact List.filterMap_append

theorem exchanges_bind_of_error {x : Traced (Exchange ⊕ ε) α} {e : Fault}
    (hx : x.result = .error e) (f : α → Traced (Exchange ⊕ ε) β) :
    exchanges (x >>= f) = exchanges x := by
  rw [Traced.bind_of_error hx]
  rfl

/-- Talks with the questions of a talk of `L`, up to some point. -/
def opens (L : Language Exchange) : Language Exchange :=
  {l | ∃ w ∈ L, l.map Exchange.action <+: w.map Exchange.action}

variable {L M N : Language Exchange}

theorem mem_opens_of_mem {l : List Exchange} (h : l ∈ L) : l ∈ opens L := ⟨l, h, List.prefix_rfl⟩

theorem nil_mem_opens {w : List Exchange} (h : w ∈ L) : [] ∈ opens L := ⟨w, h, List.nil_prefix⟩

theorem mem_opens_mul {l w : List Exchange} (h : l ∈ opens L) (hw : w ∈ M) : l ∈ opens (L * M) := by
  obtain ⟨v, hv, hl⟩ := h
  refine ⟨v ++ w, Language.append_mem_mul hv hw, ?_⟩
  rw [List.map_append]
  exact hl.trans (List.prefix_append _ _)

theorem append_mem_opens_mul {l k : List Exchange} (hl : l ∈ L) (hk : k ∈ opens M) :
    l ++ k ∈ opens (L * M) := by
  obtain ⟨w, hw, hk⟩ := hk
  refine ⟨l ++ w, Language.append_mem_mul hl hw, ?_⟩
  rw [List.map_append, List.map_append]
  exact (List.prefix_append_right_inj _).mpr hk

theorem opens_mono (h : ∀ l ∈ L, l ∈ M) {l : List Exchange} (hl : l ∈ opens L) : l ∈ opens M := by
  obtain ⟨w, hw, hl⟩ := hl
  exact ⟨w, h w hw, hl⟩

/-- How a computation comes to its end that has a talk of `L`, unless its value is one to stop at. -/
inductive Ends (L : Language Exchange) (stop : α → Prop) (x : Traced (Exchange ⊕ ε) α) : Prop
  | whole {a : α} (hx : x.result = .ok a) (ha : ¬ stop a)
    (hfine : ∀ s ∈ exchanges x, s.fault? = none) (hl : exchanges x ∈ L)
  | early {a : α} (hx : x.result = .ok a) (ha : stop a)
    (hfine : ∀ s ∈ exchanges x, s.fault? = none) (hl : exchanges x ∈ opens L)
  | failed {e : Fault} {before : List Exchange} {s : Exchange} (hx : x.result = .error e)
    (hlast : exchanges x = before ++ [s]) (hs : s.fault? = some e)
    (hfine : ∀ t ∈ before, t.fault? = none) (hl : exchanges x ∈ opens L)

namespace Ends

variable {stop : α → Prop} {stop' : β → Prop}

theorem nonempty {x : Traced (Exchange ⊕ ε) α} (h : Ends L stop x) : ∃ w, w ∈ L := by
  cases h with
  | whole _ _ _ hl => exact ⟨_, hl⟩
  | early _ _ _ hl => exact ⟨_, hl.choose_spec.1⟩
  | failed _ _ _ _ hl => exact ⟨_, hl.choose_spec.1⟩

theorem mono (h : ∀ l ∈ L, l ∈ M) {x : Traced (Exchange ⊕ ε) α} (hx : Ends L stop x) :
    Ends M stop x := by
  cases hx with
  | whole hx ha hfine hl => exact .whole hx ha hfine (h _ hl)
  | early hx ha hfine hl => exact .early hx ha hfine (opens_mono h hl)
  | failed hx hlast hs hfine hl => exact .failed hx hlast hs hfine (opens_mono h hl)

theorem pure_whole {a : α} (ha : ¬ stop a) (hl : [] ∈ L) :
    Ends L stop (pure a : Traced (Exchange ⊕ ε) α) :=
  .whole rfl ha (by simp) hl

theorem pure_early {a : α} (ha : stop a) (hL : ∃ w, w ∈ L) :
    Ends L stop (pure a : Traced (Exchange ⊕ ε) α) :=
  .early rfl ha (by simp) (nil_mem_opens hL.choose_spec)

theorem bind {x : Traced (Exchange ⊕ ε) α} {f : α → Traced (Exchange ⊕ ε) β} (hx : Ends L stop x)
    (hM : ∃ w, w ∈ M) (hgo : ∀ a, x.result = .ok a → ¬ stop a → Ends M stop' (f a))
    (hstop : ∀ a, stop a → ∃ b, (f a).result = .ok b ∧ exchanges (f a) = [] ∧ stop' b) :
    Ends (L * M) stop' (x >>= f) := by
  cases hx with
  | @whole a hx ha hfine hl =>
    have hresult : (x >>= f).result = (f a).result := by rw [Traced.bind_of_ok hx]
    have hlog := exchanges_bind_of_ok hx f
    cases hgo a hx ha with
    | whole hf hb hfine' hl' =>
      refine .whole (hresult.trans hf) hb ?_ ?_
      · rw [hlog]
        exact List.forall_mem_append.mpr ⟨hfine, hfine'⟩
      · rw [hlog]
        exact Language.append_mem_mul hl hl'
    | early hf hb hfine' hl' =>
      refine .early (hresult.trans hf) hb ?_ ?_
      · rw [hlog]
        exact List.forall_mem_append.mpr ⟨hfine, hfine'⟩
      · rw [hlog]
        exact append_mem_opens_mul hl hl'
    | @failed e before s hf hlast hs hfine' hl' =>
      refine .failed (hresult.trans hf) ?_ hs (List.forall_mem_append.mpr ⟨hfine, hfine'⟩) ?_
      · rw [hlog, hlast, List.append_assoc]
      · rw [hlog]
        exact append_mem_opens_mul hl hl'
  | @early a hx ha hfine hl =>
    -- A talk of `M` that is never had still has to exist for this to be the beginning of one.
    obtain ⟨b, hf, hnone, hb⟩ := hstop a ha
    have hlog : exchanges (x >>= f) = exchanges x := by
      rw [exchanges_bind_of_ok hx, hnone, List.append_nil]
    have hresult : (x >>= f).result = .ok b := by rw [Traced.bind_of_ok hx, hf]
    refine .early hresult hb (hlog ▸ hfine) ?_
    rw [hlog]
    exact mem_opens_mul hl hM.choose_spec
  | failed hx hlast hs hfine hl =>
    have hlog := exchanges_bind_of_error hx f
    refine .failed (by rw [Traced.bind_of_error hx]) (hlog.trans hlast) hs hfine ?_
    rw [hlog]
    exact mem_opens_mul hl hM.choose_spec

theorem mem_opens {x : Traced (Exchange ⊕ ε) α} (hx : Ends L stop x) : exchanges x ∈ opens L := by
  cases hx with
  | whole _ _ _ hl => exact mem_opens_of_mem hl
  | early _ _ _ hl => exact hl
  | failed _ _ _ _ hl => exact hl

theorem mem_of_ok {x : Traced (Exchange ⊕ ε) α} (hx : Ends L stop x) {a : α}
    (ha : x.result = .ok a) (hstop : ¬ stop a) : exchanges x ∈ L := by
  cases hx with
  | whole _ _ _ hl => exact hl
  | early hx hb _ _ =>
    rw [ha] at hx
    cases hx
    exact absurd hb hstop
  | failed hx => exact absurd (ha.symm.trans hx) nofun

/-- A question that fails is the last one. -/
theorem fault?_of_mem_dropLast {x : Traced (Exchange ⊕ ε) α} (hx : Ends L stop x) :
    ∀ s ∈ (exchanges x).dropLast, s.fault? = none := by
  cases hx with
  | whole _ _ hfine _ => exact fun s hs => hfine s (List.mem_of_mem_dropLast hs)
  | early _ _ hfine _ => exact fun s hs => hfine s (List.mem_of_mem_dropLast hs)
  | failed _ hlast _ hfine _ =>
    rw [hlast, List.dropLast_concat]
    exact hfine

/-- Nothing fails but questions. -/
theorem result_eq_error_iff {x : Traced (Exchange ⊕ ε) α} (hx : Ends L stop x) (e : Fault) :
    x.result = .error e ↔ ∃ s, (exchanges x).getLast? = some s ∧ s.fault? = some e := by
  have hok : ∀ a, x.result = .ok a → (∀ s ∈ exchanges x, s.fault? = none) →
      (x.result = .error e ↔ ∃ s, (exchanges x).getLast? = some s ∧ s.fault? = some e) := by
    intro a ha hfine
    constructor
    · intro h
      rw [ha] at h
      cases h
    · rintro ⟨s, hs, he⟩
      rw [hfine s (List.mem_of_getLast? hs)] at he
      cases he
  cases hx with
  | whole hx _ hfine _ => exact hok _ hx hfine
  | early hx _ hfine _ => exact hok _ hx hfine
  | failed hx hlast hs _ _ => simp [hx, hlast, hs]

theorem exists_ok_of_one {x : Traced (Exchange ⊕ ε) α} (hx : Ends 1 stop x) :
    ∃ a, x.result = .ok a ∧ exchanges x = [] := by
  have hnone : exchanges x = [] := by
    obtain ⟨_, rfl, hprefix⟩ := hx.mem_opens
    exact List.map_eq_nil_iff.mp (List.prefix_nil.mp hprefix)
  cases hx with
  | whole hx => exact ⟨_, hx, hnone⟩
  | early hx => exact ⟨_, hx, hnone⟩
  | failed _ hlast => simp [hlast] at hnone

end Ends

def never (_ : α) : Prop := False

def asked (action : Action) : Language Exchange := {l | ∃ a, l = [⟨action, .ok a⟩]}

theorem map_action_of_mem_prod {as : List α} {question : α → Action} {l : List Exchange}
    (h : l ∈ (as.map fun a => asked (question a)).prod) :
    l.map Exchange.action = as.map question := by
  induction as generalizing l with
  | nil =>
    rw [Language.mem_one l |>.mp h]
    rfl
  | cons a as ih =>
    rw [List.map_cons, List.prod_cons] at h
    obtain ⟨_, ⟨b, rfl⟩, k, hk, rfl⟩ := h
    rw [List.map_append, ih hk]
    rfl

instance : (action : Action) → Inhabited action.Answer
  | .connect | .ask .fetch | .ask (.ensureBranches _) => ⟨()⟩
  | .ask (.lookUp _) => ⟨none⟩

/-- A computation has a talk of `L` with a repository that answers as `answer` does. -/
structure Holds (answer : Responder ε) (L : Language Exchange) (stop : α → Prop)
    (x : Traced (Exchange ⊕ ε) α) : Prop where
  ends : Ends L stop x
  spoken : ∀ s ∈ exchanges x, ∃ past, s.answer = answer past s.action

namespace Holds

variable {answer : Responder ε} {stop : α → Prop} {stop' : β → Prop}

theorem nonempty {x : Traced (Exchange ⊕ ε) α} (h : Holds answer L stop x) : ∃ w, w ∈ L :=
  h.ends.nonempty

theorem mono (h : ∀ l ∈ L, l ∈ M) {x : Traced (Exchange ⊕ ε) α} (hx : Holds answer L stop x) :
    Holds answer M stop x :=
  ⟨hx.ends.mono h, hx.spoken⟩

theorem pure_whole {a : α} (ha : ¬ stop a) (hl : [] ∈ L) : Holds answer L stop (pure a) :=
  ⟨.pure_whole ha hl, by simp⟩

theorem pure_early {a : α} (ha : stop a) (hL : ∃ w, w ∈ L) : Holds answer L stop (pure a) :=
  ⟨.pure_early ha hL, by simp⟩

theorem bind {x : Traced (Exchange ⊕ ε) α} {f : α → Traced (Exchange ⊕ ε) β}
    (hx : Holds answer L stop x) (hM : ∃ w, w ∈ M)
    (hgo : ∀ a, x.result = .ok a → ¬ stop a → Holds answer M stop' (f a))
    (hstop : ∀ a, stop a → ∃ b, (f a).result = .ok b ∧ exchanges (f a) = [] ∧ stop' b) :
    Holds answer (L * M) stop' (x >>= f) where
  ends := hx.ends.bind hM (fun a hxa ha => (hgo a hxa ha).ends) hstop
  spoken := by
    cases hxa : x.result with
    | error e =>
      rw [exchanges_bind_of_error hxa]
      exact hx.spoken
    | ok a =>
      rw [exchanges_bind_of_ok hxa]
      refine List.forall_mem_append.mpr ⟨hx.spoken, ?_⟩
      by_cases ha : stop a
      · obtain ⟨-, -, hnone, -⟩ := hstop a ha
        simp [hnone]
      · exact (hgo a hxa ha).spoken

theorem map {x : Traced (Exchange ⊕ ε) α} (hx : Holds answer L stop x) {g : α → β}
    (h : ∀ a, stop' (g a) ↔ stop a) : Holds answer L stop' (x >>= fun a => pure (g a)) := by
  have hmul : Holds answer (L * 1) stop' (x >>= fun a => pure (g a)) :=
    hx.bind ⟨[], rfl⟩ (fun a _ ha => pure_whole (mt (h a).mp ha) rfl)
      fun a ha => ⟨g a, rfl, rfl, (h a).mpr ha⟩
  rwa [mul_one] at hmul

/-- The rest of the talk may depend on the answer to its first question. -/
theorem put_bind {action : Action} {past : List (Exchange ⊕ ε)}
    {f : action.Answer → Traced (Exchange ⊕ ε) β}
    (h : ∀ a, Holds answer {l | ⟨action, .ok a⟩ :: l ∈ N} stop' (f a)) :
    Holds answer N stop' (answer.put action past >>= f) := by
  have hspoken : ∀ s ∈ exchanges (answer.put action past),
      ∃ past, s.answer = answer past s.action := by
    intro s hs
    rw [List.mem_singleton.mp hs]
    exact ⟨past, rfl⟩
  cases hr : answer past action with
  | error e =>
    -- The question stays; any answer at all shows how the talk could have gone on.
    have hresult : (answer.put action past).result = .error e := hr
    have hlast : exchanges (answer.put action past >>= f) = [] ++ [⟨action, .error e⟩] := by
      rw [exchanges_bind_of_error hresult, ← hr]
      rfl
    obtain ⟨w, hw⟩ := (h default).nonempty
    constructor
    · refine .failed (by rw [Traced.bind_of_error hresult]) hlast rfl (by simp) ?_
      exact ⟨_, hw, by simp [hlast]⟩
    · rw [exchanges_bind_of_error hresult]
      exact hspoken
  | ok a =>
    have hresult : (answer.put action past).result = .ok a := hr
    have hlog : exchanges (answer.put action past) = [⟨action, .ok a⟩] := by
      rw [← hr]
      rfl
    have hput : Holds answer {[⟨action, .ok a⟩]} never (answer.put action past) := by
      refine ⟨.whole hresult id ?_ hlog, hspoken⟩
      rw [hlog]
      simp [Exchange.fault?]
    have hmul := hput.bind (h a).nonempty
      (fun b hb _ => by rw [hresult] at hb; cases hb; exact h a) nofun
    refine hmul.mono ?_
    rintro _ ⟨_, rfl, l, hl, rfl⟩
    exact hl

/-- A talk that goes on the same way whatever the answer to the first question. -/
theorem put_mul {action : Action} {past : List (Exchange ⊕ ε)}
    {f : action.Answer → Traced (Exchange ⊕ ε) β} (h : ∀ a, Holds answer M stop' (f a)) :
    Holds answer (asked action * M) stop' (answer.put action past >>= f) := by
  refine put_bind fun a => (h a).mono fun l hl => ?_
  have ha : [⟨action, .ok a⟩] ∈ asked action := ⟨a, rfl⟩
  exact Language.append_mem_mul ha hl

theorem emitAll_bind {events : List ε} {past : List (Exchange ⊕ ε)}
    {f : Unit → Traced (Exchange ⊕ ε) β} (h : Holds answer M stop' (f ())) :
    Holds answer M stop' ((Tracing.emitAll events : Dialogue ε Unit) past >>= f) := by
  have hemit : Holds answer 1 never ((Tracing.emitAll events : Dialogue ε Unit) past) :=
    ⟨.whole rfl id (by simp) (exchanges_emitAll events past), by simp⟩
  have hmul := hemit.bind h.nonempty (fun _ _ _ => h) nofun
  rwa [one_mul] at hmul

end Holds
end Talk
end ReleaseAudit

import ReleaseAudit.Check.Battery
import ReleaseAudit.Proofs.Talk
import Mathlib.Algebra.BigOperators.Group.List.Defs

/-! What a run asks of a repository, in which order, and how it ends if a question fails. -/
namespace ReleaseAudit
namespace Protocol

open Talk

variable {ε α : Type}

/-- The findings end a run that fails fast. -/
def endsSweep (mode : Mode) (found : List Finding) : Prop :=
  mode = .failFast ∧ ∃ f ∈ found, f.isViolation = true

theorem endsSweep_append {mode : Mode} {fs gs : List Finding} :
    endsSweep mode (fs ++ gs) ↔ endsSweep mode fs ∨ endsSweep mode gs := by
  simp only [endsSweep, List.mem_append, or_and_right, exists_or, and_or_left]

theorem endsSweep_toList {mode : Mode} {found : Option Finding} :
    endsSweep mode found.toList ↔ (found.any Finding.isViolation && mode.isFailFast) = true := by
  cases found <;> simp [endsSweep, Mode.isFailFast_iff, and_comm]

def endsCheck (mode : Mode) (r : CheckResult) : Prop := mode = .failFast ∧ r.passed = false

theorem endsCheck_iff {mode : Mode} {r : CheckResult} :
    endsCheck mode r ↔ (!r.passed && mode.isFailFast) = true := by
  simp [endsCheck, Mode.isFailFast_iff, and_comm]

theorem endsCheck_ofFindings {mode : Mode} {name message : String} {found : List Finding} :
    endsCheck mode (.ofFindings name message found) ↔ endsSweep mode found := by
  rw [endsCheck, endsSweep, CheckResult.passed_eq_false_iff]
  simp [CheckResult.ofFindings, Finding.isViolation, Option.isSome_iff_ne_none]

def endsRun (mode : Mode) (rs : List CheckResult) : Prop :=
  mode = .failFast ∧ collectViolations rs ≠ []

theorem endsRun_iff {mode : Mode} {rs : List CheckResult} :
    endsRun mode rs ↔ (rs.any (!·.passed) && mode.isFailFast) = true := by
  rw [endsRun, Bool.and_eq_true, any_not_passed_iff, Mode.isFailFast_iff, and_comm]

theorem endsRun_cons {mode : Mode} {r : CheckResult} {rs : List CheckResult} :
    endsRun mode (r :: rs) ↔ endsCheck mode r ∨ endsRun mode rs := by
  simp only [endsRun, endsCheck, collectViolations_cons, CheckResult.passed_eq_false_iff, ne_eq,
    List.append_eq_nil_iff, not_and_or, and_or_left]

theorem endsRun_append {mode : Mode} {rs ss : List CheckResult} :
    endsRun mode (rs ++ ss) ↔ endsRun mode rs ∨ endsRun mode ss := by
  simp only [endsRun, collectViolations_append, ne_eq, List.append_eq_nil_iff, not_and_or,
    and_or_left]

variable {answer : Responder ε} {mode : Mode}

theorem holds_sweep {look : α → Dialogue ε (Option Finding)} {L : α → Language Exchange}
    (h : ∀ a past, Holds answer (L a) never (look a past)) (as : List α)
    (past : List (Exchange ⊕ ε)) :
    Holds answer (as.map L).prod (endsSweep mode) (sweep mode look as past) := by
  induction as generalizing past with
  | nil => exact .pure_whole (by simp [endsSweep]) rfl
  | cons a as ih =>
    rw [sweep_cons, Conversation.bind_apply, List.map_cons, List.prod_cons]
    refine (h a past).bind (ih []).nonempty (fun found _ _ => ?_) nofun
    split
    · next hit => exact .pure_early (endsSweep_toList.mpr hit) (ih []).nonempty
    · next hit =>
      refine (ih _).map fun rest => ?_
      rw [endsSweep_append, endsSweep_toList]
      exact or_iff_right hit

/-- The rule has a talk of `L`, whatever happened before. -/
def Talks (answer : Responder ε) (scope : Scope (Dialogue ε)) (c : Rule (Dialogue ε))
    (L : Language Exchange) : Prop :=
  ∀ past, Holds answer L (endsCheck scope.mode) (c.run scope past)

theorem talks_ofIndex (name description passMessage : String) (entries : ReleaseIndex → List α)
    (judge : α → Option Violation) (scope : Scope (Dialogue ε)) :
    Talks answer scope (.ofIndex name description passMessage entries judge) 1 := by
  intro past
  have hlook : ∀ a past, Holds answer 1 never
      ((pure ((judge a).map .violation) : Dialogue ε (Option Finding)) past) :=
    fun _ _ => .pure_whole id rfl
  have hsweep : Holds answer _ (endsSweep scope.mode) _ :=
    holds_sweep hlook (entries scope.index) past
  rw [List.prod_map_one] at hsweep
  exact hsweep.map fun _ => endsCheck_ofFindings

theorem talks_ofVersions (name description passMessage : String)
    {judge : Access (Dialogue ε) → Release × Version → Dialogue ε (Option Finding)}
    {L : Release × Version → Language Exchange}
    (h : ∀ p past, Holds answer (L p) never (judge answer.access p past)) (index : ReleaseIndex) :
    Talks answer ⟨index, mode, some answer.access⟩
      (.ofVersions name description passMessage judge) (index.versions.map L).prod := by
  intro past
  have hsweep : Holds answer _ (endsSweep mode) _ := holds_sweep h index.versions past
  change Holds answer _ _ ((pure answer.access >>= _ : Dialogue ε CheckResult) past)
  rw [Conversation.pure_bind]
  exact hsweep.map fun _ => endsCheck_ofFindings

def references (index : ReleaseIndex) : Language Exchange :=
  (index.versions.map fun p => asked (.lookUp p.2.reference)).prod

def missing (reference : String) : Language Exchange :=
  {l | l = [⟨.lookUp reference, .ok none⟩]}

/-- One question about a reference that names a commit. -/
def resolved (reference : String) : Language Exchange :=
  {l | ∃ commit, l = [⟨.lookUp reference, .ok (some commit)⟩]}

/-- What is asked about a tag, and about the reference of its version if there is such a tag. -/
def tagTalk (p : Release × Version) : Language Exchange :=
  missing (p.1.tagName p.2) +
    resolved (p.1.tagName p.2) * asked (.lookUp p.2.reference)

def tags (index : ReleaseIndex) : Language Exchange := (index.versions.map tagTalk).prod

def greeting (index : ReleaseIndex) : Language Exchange :=
  asked .connect * (asked (.ask .fetch) * asked (.ask (.ensureBranches index.rcNames)))

/-- The talk of a run that is not cut short. -/
def fullTalk (index : ReleaseIndex) : Language Exchange :=
  greeting index * (references index * (references index * tags index))

theorem talks_commitExistence (answer : Responder ε) (index : ReleaseIndex) (mode : Mode) :
    Talks answer ⟨index, mode, some answer.access⟩ .commitExistence (references index) := by
  refine talks_ofVersions _ _ _ ?_ index
  rintro ⟨r, v⟩ past
  simp only
  rw [Conversation.bind_apply]
  refine .put_bind fun found => ?_
  cases found with
  | none => exact .pure_whole id ⟨_, rfl⟩
  | some commit => exact .pure_whole id ⟨_, rfl⟩

theorem talks_branchMembership (answer : Responder ε) (index : ReleaseIndex) (mode : Mode) :
    Talks answer ⟨index, mode, some answer.access⟩ .branchMembership (references index) := by
  refine talks_ofVersions _ _ _ ?_ index
  rintro ⟨r, v⟩ past
  simp only
  rw [Conversation.bind_apply]
  refine .put_bind fun found => ?_
  cases found with
  | none => exact .pure_whole id ⟨_, rfl⟩
  | some commit =>
    simp only
    split <;> exact .pure_whole id ⟨_, rfl⟩

theorem talks_tagConsistency (answer : Responder ε) (index : ReleaseIndex) (mode : Mode) :
    Talks answer ⟨index, mode, some answer.access⟩ .tagConsistency (tags index) := by
  refine talks_ofVersions _ _ _ ?_ index
  rintro ⟨r, v⟩ past
  simp only
  rw [Conversation.bind_apply]
  refine .put_bind fun tag => ?_
  cases tag with
  | none => exact .pure_whole id (.inl rfl)
  | some tag =>
    simp only
    rw [Conversation.bind_apply]
    have htag : [⟨.lookUp (r.tagName v), .ok (some tag)⟩] ∈ resolved (r.tagName v) := ⟨tag, rfl⟩
    have hrest : ∀ l ∈ asked (.lookUp v.reference),
        ⟨.lookUp (r.tagName v), .ok (some tag)⟩ :: l ∈ tagTalk (r, v) :=
      fun l hl => .inr (Language.append_mem_mul htag hl)
    refine .mono hrest (.put_bind fun found => ?_)
    cases found with
    | none => exact .pure_whole id ⟨_, rfl⟩
    | some commit =>
      simp only
      split <;> exact .pure_whole id ⟨_, rfl⟩

theorem holds_runInOrder {scope : Scope (Dialogue ε)} (observe : CheckResult → List ε)
    {cs : List (Rule (Dialogue ε))} {Ls : List (Language Exchange)}
    (h : List.Forall₂ (Talks answer scope) cs Ls) (past : List (Exchange ⊕ ε)) :
    Holds answer Ls.prod (endsRun scope.mode) (runInOrder scope observe cs past) := by
  induction h generalizing past with
  | nil => exact .pure_whole (by simp [endsRun]) rfl
  | @cons c L cs Ls hc _ ih =>
    rw [runInOrder, Conversation.bind_apply, List.prod_cons]
    refine (hc past).bind (ih []).nonempty (fun r _ hr => ?_) fun r hr => ?_
    · rw [Conversation.bind_apply]
      refine .emitAll_bind ?_
      rw [if_neg (mt endsCheck_iff.mpr hr)]
      refine (ih _).map fun rs => ?_
      rw [endsRun_cons]
      exact or_iff_right hr
    · -- The result is still observed, but nothing is asked any more.
      rw [if_pos (endsCheck_iff.mp hr)]
      refine ⟨[r], rfl, ?_, endsRun_cons.mpr (.inl hr)⟩
      rw [Conversation.bind_apply, exchanges_bind_of_ok rfl, exchanges_emitAll]
      rfl

def firstStage (index : ReleaseIndex) (mode : Mode) (observe : CheckResult → List ε) :
    Dialogue ε (List CheckResult) :=
  runStage standardChecks .manifest ⟨index, mode, none⟩ observe

/-- The first stage asks nothing. -/
theorem holds_firstStage (answer : Responder ε) (index : ReleaseIndex) (mode : Mode)
    (observe : CheckResult → List ε) (past : List (Exchange ⊕ ε)) :
    Holds answer 1 (endsRun mode) (firstStage index mode observe past) := by
  have hrules : List.Forall₂ (Talks answer ⟨index, mode, none⟩)
      [.baseVersion, .uniqueVersionNames, .rcOrder] [1, 1, 1] :=
    .cons (talks_ofIndex _ _ _ _ _ _)
      (.cons (talks_ofIndex _ _ _ _ _ _) (.cons (talks_ofIndex _ _ _ _ _ _) .nil))
  have hrun := holds_runInOrder observe hrules past
  rwa [List.prod_cons, one_mul, List.prod_cons, one_mul, List.prod_singleton] at hrun

theorem holds_repository (answer : Responder ε) (index : ReleaseIndex) (mode : Mode)
    (observe : CheckResult → List ε) (past : List (Exchange ⊕ ε)) :
    Holds answer (references index * (references index * tags index)) (endsRun mode)
      (runStage standardChecks .repository ⟨index, mode, some answer.access⟩ observe past) := by
  have hrun := holds_runInOrder observe (.cons (talks_commitExistence answer index mode)
    (.cons (talks_branchMembership answer index mode)
      (.cons (talks_tagConsistency answer index mode) .nil))) past
  rwa [List.prod_cons, List.prod_cons, List.prod_singleton] at hrun

def prepare (answer : Responder ε) (index : ReleaseIndex) : Dialogue ε (Access (Dialogue ε)) := do
  let repository ← answer.connect
  repository.fetch
  repository.ensureBranches index.rcNames
  return repository

theorem prepare_eq (answer : Responder ε) (index : ReleaseIndex) :
    prepare answer index = answer.put .connect >>= fun _ => answer.put (.ask .fetch) >>= fun _ =>
      answer.put (.ask (.ensureBranches index.rcNames)) >>= fun _ => pure answer.access := by
  simp only [prepare, Responder.connect, Conversation.bind_assoc, Conversation.pure_bind]
  rfl

theorem holds_prepare (answer : Responder ε) (index : ReleaseIndex) (past : List (Exchange ⊕ ε)) :
    Holds answer (greeting index) never (prepare answer index past) := by
  rw [prepare_eq]
  refine .put_mul fun _ => .put_mul fun _ => .put_bind fun _ => ?_
  exact .pure_whole id ⟨_, rfl⟩

theorem eq_access_of_prepare {index : ReleaseIndex} {past : List (Exchange ⊕ ε)}
    {repository : Access (Dialogue ε)} (h : (prepare answer index past).result = .ok repository) :
    repository = answer.access := by
  rw [prepare_eq] at h
  obtain ⟨_, -, h⟩ := Traced.result_bind_eq_ok.mp h
  obtain ⟨_, -, h⟩ := Traced.result_bind_eq_ok.mp h
  obtain ⟨_, -, h⟩ := Traced.result_bind_eq_ok.mp h
  exact (Except.ok.inj h).symm

/-- The run after a first stage that does not end it. -/
def resume (answer : Responder ε) (index : ReleaseIndex) (mode : Mode)
    (observe : CheckResult → List ε) (first : List CheckResult) :
    Dialogue ε (List CheckResult) := do
  let repository ← prepare answer index
  let second ← runStage standardChecks .repository ⟨index, mode, some repository⟩ observe
  return first ++ second

theorem runChecks_eq (answer : Responder ε) (index : ReleaseIndex) (mode : Mode)
    (observe : CheckResult → List ε) :
    runChecks index mode observe answer.connect =
      firstStage index mode observe >>= fun first =>
        if first.any (!·.passed) && mode.isFailFast then pure first
        else resume answer index mode observe first := by
  simp only [runChecks, firstStage, resume, prepare, Conversation.bind_assoc, Conversation.pure_bind]

theorem holds_resume (answer : Responder ε) (index : ReleaseIndex) (observe : CheckResult → List ε)
    {first : List CheckResult} (hfirst : ¬ endsRun mode first) (past : List (Exchange ⊕ ε)) :
    Holds answer (fullTalk index) (endsRun mode)
      (resume answer index mode observe first past) := by
  have hstage := fun past => holds_repository answer index mode observe past
  rw [resume, Conversation.bind_apply]
  refine (holds_prepare answer index past).bind (hstage []).nonempty (fun repository h _ => ?_) nofun
  rw [eq_access_of_prepare h]
  refine (hstage _).map fun second => ?_
  rw [endsRun_append]
  exact or_iff_right hfirst

theorem holds_runChecks (answer : Responder ε) (index : ReleaseIndex) (mode : Mode)
    (observe : CheckResult → List ε) (past : List (Exchange ⊕ ε)) :
    Holds answer (fullTalk index) (endsRun mode)
      (runChecks index mode observe answer.connect past) := by
  have hfirst := holds_firstStage answer index mode observe past
  -- Also a run that stops after the first stage needs a full talk that it could have had.
  have hempty : ¬ endsRun mode [] := by simp [endsRun]
  have htalk := holds_resume answer index observe hempty past
  rw [runChecks_eq, Conversation.bind_apply, ← one_mul (fullTalk index)]
  refine hfirst.bind htalk.nonempty (fun first _ hfirst => ?_) fun first hfirst => ?_
  · rw [if_neg (mt endsRun_iff.mpr hfirst)]
    exact holds_resume answer index observe hfirst _
  · rw [if_pos (endsRun_iff.mp hfirst)]
    exact ⟨first, rfl, rfl, hfirst⟩

def opening (index : ReleaseIndex) : List Action :=
  [.connect, .ask .fetch, .ask (.ensureBranches index.rcNames)]

theorem map_action_of_mem_greeting {index : ReleaseIndex} {l : List Exchange}
    (h : l ∈ greeting index) : l.map Exchange.action = opening index := by
  obtain ⟨_, ⟨_, rfl⟩, _, ⟨_, ⟨_, rfl⟩, _, ⟨_, rfl⟩, rfl⟩, rfl⟩ := h
  rfl

theorem map_action_of_mem_fullTalk {index : ReleaseIndex} {l : List Exchange}
    (h : l ∈ fullTalk index) : ∃ k ∈ tags index, l.map Exchange.action = opening index ++
      (index.versions.map (·.2.reference) ++ index.versions.map (·.2.reference)).map .lookUp ++
      k.map Exchange.action ∧ ∀ s ∈ k, s ∈ l := by
  obtain ⟨l₁, h₁, _, ⟨l₂, h₂, _, ⟨l₃, h₃, k, hk, rfl⟩, rfl⟩, rfl⟩ := h
  refine ⟨k, hk, ?_, fun s hs => by simp [hs]⟩
  simp only [List.map_append, map_action_of_mem_greeting h₁, map_action_of_mem_prod h₂,
    map_action_of_mem_prod h₃, List.map_map, List.append_assoc, Function.comp_def]

theorem exists_lookUps_of_mem_tags {ps : List (Release × Version)} {l : List Exchange}
    (h : l ∈ (ps.map tagTalk).prod) :
    ∃ lookUps : List String, l.map Exchange.action = lookUps.map .lookUp := by
  induction ps generalizing l with
  | nil => exact ⟨[], by rw [(Language.mem_one l).mp h]; rfl⟩
  | cons p ps ih =>
    rw [List.map_cons, List.prod_cons] at h
    obtain ⟨k, hk, l, hl, rfl⟩ := h
    obtain ⟨lookUps, hlookUps⟩ := ih hl
    rw [List.map_append, hlookUps]
    rcases hk with rfl | ⟨_, ⟨tag, rfl⟩, _, ⟨commit, rfl⟩, rfl⟩
    · exact ⟨p.1.tagName p.2 :: lookUps, rfl⟩
    · exact ⟨p.1.tagName p.2 :: p.2.reference :: lookUps, rfl⟩

/-- What is asked about the tag of a version, if tags that resolve are told by `resolves`. -/
def tagLookUps (resolves : String → Bool) (p : Release × Version) : List String :=
  p.1.tagName p.2 :: if resolves (p.1.tagName p.2) then [p.2.reference] else []

theorem map_action_of_mem_tags {a : Accessor} {ps : List (Release × Version)} {l : List Exchange}
    (h : l ∈ (ps.map tagTalk).prod) (hspoken : ∀ s ∈ l, s.answer = a.reply s.action) :
    l.map Exchange.action = (ps.flatMap (tagLookUps a.resolves)).map .lookUp := by
  induction ps generalizing l with
  | nil =>
    rw [(Language.mem_one l).mp h]
    rfl
  | cons p ps ih =>
    rw [List.map_cons, List.prod_cons] at h
    obtain ⟨k, hk, l, hl, rfl⟩ := h
    obtain ⟨hk', hl'⟩ := List.forall_mem_append.mp hspoken
    rw [List.map_append, ih hl hl', List.flatMap_cons, List.map_append]
    congr 1
    rcases hk with rfl | ⟨_, ⟨tag, rfl⟩, _, ⟨commit, rfl⟩, rfl⟩
    · have hnone : .ok none = a.lookUp (p.1.tagName p.2) :=
        hk' ⟨.lookUp (p.1.tagName p.2), .ok none⟩ (by simp)
      simp [tagLookUps, Accessor.resolves, ← hnone]
    · have hsome : .ok (some tag) = a.lookUp (p.1.tagName p.2) :=
        hk' ⟨.lookUp (p.1.tagName p.2), .ok (some tag)⟩ (by simp)
      simp [tagLookUps, Accessor.resolves, ← hsome]

theorem length_flatMap_tagLookUps (resolves : String → Bool) (ps : List (Release × Version)) :
    (ps.flatMap (tagLookUps resolves)).length =
      ps.length + ps.countP fun p => resolves (p.1.tagName p.2) := by
  induction ps with
  | nil => rfl
  | cons p ps ih =>
    rw [List.flatMap_cons, List.length_append, ih, List.countP_cons, List.length_cons]
    by_cases h : resolves (p.1.tagName p.2) = true <;> simp [tagLookUps, h] <;> omega

/-- A run that asks in order, and that ends with the first question that fails. The first stage has
come to `first` by then. -/
structure Orderly (answer : Responder ε) (index : ReleaseIndex) (mode : Mode)
    (first : List CheckResult) (x : Traced (Exchange ⊕ ε) (List CheckResult)) : Prop where
  /-- Nothing is asked for an index that a run fails fast on. -/
  untouched : mode = .failFast → collectViolations first ≠ [] → exchanges x = []
  connectsOnce : (actions x).count .connect ≤ 1
  /-- Nothing is looked up before the repository is up to date and has the branches. -/
  order : ∃ lookUps : List String, actions x <+: opening index ++ lookUps.map .lookUp
  opened : ∀ results, x.result = .ok results → exchanges x = [] ∨ opening index <+: actions x
  /-- Wherever a run ends, it has asked what a full talk begins with. -/
  begins : exchanges x ∈ opens (fullTalk index)
  /-- Only the last question may have failed. -/
  answered : ∀ s ∈ (exchanges x).dropLast, s.fault? = none
  /-- A run fails with a question, and with nothing else. -/
  fault : ∀ e, x.result = .error e ↔ ∃ s, (exchanges x).getLast? = some s ∧ s.fault? = some e
  whole : ∀ results, x.result = .ok results → mode = .batch ∨ collectViolations results = [] →
    exchanges x ∈ fullTalk index
  /-- How often an accessor is asked whose answers, as those of a store, depend on nothing but the
  question. -/
  counts : ∀ a : Accessor, (answer = fun _ => a.reply) → ∀ results, x.result = .ok results →
    mode = .batch ∨ collectViolations results = [] →
      (actions x).count (.ask .fetch) = 1 ∧
      (actions x).countP Action.isLookUp =
        3 * index.versionCount + index.versions.countP fun p => a.resolves (p.1.tagName p.2)

theorem connectsOnce_of_order {index : ReleaseIndex} {l : List Action} {lookUps : List String}
    (h : l <+: opening index ++ lookUps.map .lookUp) : l.count .connect ≤ 1 := by
  refine (h.sublist.count_le _).trans ?_
  have hlookUps : (lookUps.map Action.lookUp).count .connect = 0 := List.count_eq_zero.mpr (by simp)
  rw [List.count_append, hlookUps]
  simp [opening]

theorem counts_of_mem_fullTalk {a : Accessor} {index : ReleaseIndex} {l : List Exchange}
    (h : l ∈ fullTalk index) (hspoken : ∀ s ∈ l, s.answer = a.reply s.action) :
    (l.map Exchange.action).count (.ask .fetch) = 1 ∧
    (l.map Exchange.action).countP Action.isLookUp =
      3 * index.versionCount + index.versions.countP fun p => a.resolves (p.1.tagName p.2) := by
  obtain ⟨k, hk, hl, hkl⟩ := map_action_of_mem_fullTalk h
  have htags := map_action_of_mem_tags hk fun s hs => hspoken s (hkl s hs)
  have hfetch : ∀ lookUps : List String, (lookUps.map Action.lookUp).count (.ask .fetch) = 0 :=
    fun lookUps => List.count_eq_zero.mpr (by simp)
  have hall : ∀ lookUps : List String,
      (lookUps.map Action.lookUp).countP Action.isLookUp = lookUps.length := by
    intro lookUps
    rw [List.countP_map]
    exact List.countP_eq_length.mpr fun _ _ => rfl
  rw [hl, htags]
  constructor
  · rw [List.count_append, List.count_append, hfetch, hfetch]
    simp [opening]
  · rw [List.countP_append, List.countP_append, hall, hall, length_flatMap_tagLookUps,
      List.length_append, List.length_map, ReleaseIndex.length_versions]
    have hopening : (opening index).countP Action.isLookUp = 0 := rfl
    omega

theorem opened_resume {index : ReleaseIndex} {observe : CheckResult → List ε}
    {first results : List CheckResult} {past : List (Exchange ⊕ ε)}
    (h : (resume answer index mode observe first past).result = .ok results) :
    opening index <+: actions (resume answer index mode observe first past) := by
  rw [resume, Conversation.bind_apply] at h ⊢
  obtain ⟨repository, hrepository, -⟩ := Traced.result_bind_eq_ok.mp h
  have htalk := (holds_prepare answer index past).ends.mem_of_ok hrepository id
  rw [actions, exchanges_bind_of_ok hrepository, List.map_append, map_action_of_mem_greeting htalk]
  exact List.prefix_append _ _

theorem exchanges_runChecks_of_ends {index : ReleaseIndex} {observe : CheckResult → List ε}
    {first : List CheckResult} {past : List (Exchange ⊕ ε)}
    (hfirst : (firstStage index mode observe past).result = .ok first)
    (hnone : exchanges (firstStage index mode observe past) = []) (h : endsRun mode first) :
    exchanges (runChecks index mode observe answer.connect past) = [] := by
  rw [runChecks_eq, Conversation.bind_apply, exchanges_bind_of_ok hfirst, hnone,
    if_pos (endsRun_iff.mp h)]
  rfl

theorem opened_runChecks {index : ReleaseIndex} {observe : CheckResult → List ε}
    {first results : List CheckResult} {past : List (Exchange ⊕ ε)}
    (hfirst : (firstStage index mode observe past).result = .ok first)
    (hnone : exchanges (firstStage index mode observe past) = []) (h : ¬ endsRun mode first)
    (hresults : (runChecks index mode observe answer.connect past).result = .ok results) :
    opening index <+: actions (runChecks index mode observe answer.connect past) := by
  rw [runChecks_eq, Conversation.bind_apply] at hresults ⊢
  obtain ⟨first', hfirst', hresults⟩ := Traced.result_bind_eq_ok.mp hresults
  obtain rfl := Except.ok.inj (hfirst.symm.trans hfirst')
  rw [if_neg (mt endsRun_iff.mpr h)] at hresults
  rw [actions, exchanges_bind_of_ok hfirst, hnone, if_neg (mt endsRun_iff.mpr h)]
  exact opened_resume hresults

/-- Every run is orderly, however often and wherever questions fail. -/
theorem runChecks_orderly (answer : Responder ε) (index : ReleaseIndex) (mode : Mode)
    (observe : CheckResult → List ε) (past : List (Exchange ⊕ ε)) :
    (∃ first, (firstStage index mode observe past).result = .ok first ∧
      Orderly answer index mode first (runChecks index mode observe answer.connect past)) ∧
    index.rcNames.Nodup ∧
    (∀ name, name ∈ index.rcNames ↔ ∃ r ∈ index.releases, r.rcName = name) ∧
    index.rcNames.Pairwise fun a b =>
      (index.releases.map (·.rcName)).idxOf a < (index.releases.map (·.rcName)).idxOf b := by
  have hrun := holds_runChecks answer index mode observe past
  obtain ⟨first, hfirst, hnone⟩ :=
    (holds_firstStage answer index mode observe past).ends.exists_ok_of_one
  have hcut : ∀ results, mode = .batch ∨ collectViolations results = [] → ¬ endsRun mode results := by
    rintro results (rfl | h) ⟨hmode, hne⟩
    · cases hmode
    · exact hne h
  -- What a run asks is the beginning of a full talk, and these have the form already.
  have horder : ∃ lookUps : List String, actions (runChecks index mode observe answer.connect past)
      <+: opening index ++ lookUps.map .lookUp := by
    obtain ⟨w, hw, hprefix⟩ := hrun.ends.mem_opens
    obtain ⟨k, hk, hactions, -⟩ := map_action_of_mem_fullTalk hw
    obtain ⟨lookUps, hlookUps⟩ := exists_lookUps_of_mem_tags hk
    rw [hactions, hlookUps, List.append_assoc, ← List.map_append] at hprefix
    exact ⟨_, hprefix⟩
  refine ⟨⟨first, hfirst, ?_⟩, nodup_firstOccurrences _, ?_, pairwise_idxOf_firstOccurrences _⟩
  · constructor
    case untouched =>
      exact fun hmode hne => exchanges_runChecks_of_ends hfirst hnone ⟨hmode, hne⟩
    case connectsOnce =>
      obtain ⟨lookUps, hprefix⟩ := horder
      exact connectsOnce_of_order hprefix
    case order => exact horder
    case opened =>
      intro results hresults
      by_cases h : endsRun mode first
      · exact .inl (exchanges_runChecks_of_ends hfirst hnone h)
      · exact .inr (opened_runChecks hfirst hnone h hresults)
    case begins => exact hrun.ends.mem_opens
    case answered => exact hrun.ends.fault?_of_mem_dropLast
    case fault => exact hrun.ends.result_eq_error_iff
    case whole =>
      exact fun results hresults h => hrun.ends.mem_of_ok hresults (hcut results h)
    case counts =>
      rintro a rfl results hresults h
      refine counts_of_mem_fullTalk (hrun.ends.mem_of_ok hresults (hcut results h)) fun s hs => ?_
      obtain ⟨_, hs⟩ := hrun.spoken s hs
      exact hs
  · intro name
    simp [ReleaseIndex.rcNames, mem_firstOccurrences]

end Protocol
end ReleaseAudit

import ReleaseAudit.Proofs.Steering
import ReleaseAudit.Repository.Dialogue
import ReleaseAudit.Repository.Store
import Mathlib.Data.List.Find

/-! All that a run sees of a repository are the answers to the questions that its index makes it ask.
Repositories that differ in nothing else cannot be told apart. -/
namespace ReleaseAudit
namespace Confinement

open Steering (IsNamed)

variable {ε α β : Type} {index : ReleaseIndex}

/-- The questions that an index makes a run ask. -/
inductive Arises (index : ReleaseIndex) : Action → Prop
  | connect : Arises index .connect
  | fetch : Arises index (.ask .fetch)
  | ensureBranches : Arises index (.ask (.ensureBranches index.rcNames))
  | lookUp {name : String} (h : IsNamed index name) : Arises index (.lookUp name)

/-- A log in which no other questions are put. -/
def Asks (S : Action → Prop) (log : List (Exchange ⊕ ε)) : Prop := ∀ s, .inl s ∈ log → S s.action

/-- Repositories that answer some questions alike, as long as no other questions are put. -/
def AgreeOn (S : Action → Prop) (answer answer' : Responder ε) : Prop :=
  ∀ past, Asks S past → ∀ action, S action → answer past action = answer' past action

section Alike

variable {S : Action → Prop}

theorem asks_nil : Asks S ([] : List (Exchange ⊕ ε)) := fun _ h => nomatch h

theorem asks_events (events : List ε) : Asks S (events.map Sum.inr) := by
  intro s h
  simp at h

theorem Asks.append {log more : List (Exchange ⊕ ε)} (h : Asks S log) (h' : Asks S more) :
    Asks S (log ++ more) :=
  fun s hs => (List.mem_append.mp hs).elim (h s) (h' s)

/-- Dialogues that go alike, with no questions put but those of `S`. -/
def alike (S : Action → Prop) : Coupling (Dialogue ε) (Dialogue ε) where
  couples R x y := ∀ past, Asks S past →
    Agree R (x past).result (y past).result ∧ (y past).log = (x past).log ∧ Asks S (x past).log
  pure h _ _ := ⟨.ok h, rfl, asks_nil⟩
  fail _ e _ _ := ⟨.error e, rfl, asks_nil⟩
  bind {_ _ _ _ _ _ x y _ _} hxy hfg past hpast := by
    obtain ⟨hresult, hlog, hasks⟩ := hxy past hpast
    rw [Conversation.bind_apply, Conversation.bind_apply, hlog]
    generalize x past = cx, y past = cy at *
    obtain ⟨log, rx⟩ := cx
    obtain ⟨log', ry⟩ := cy
    cases hresult with
    | error e => exact ⟨.error e, hlog, hasks⟩
    | ok hab =>
      -- only questions of `S` have been put so far, so the answers go on agreeing
      obtain ⟨hresult', hlog', hasks'⟩ := hfg _ _ hab (past ++ log) (hpast.append hasks)
      rw [Traced.bind_of_ok rfl, Traced.bind_of_ok rfl]
      exact ⟨hresult', congrArg₂ _ hlog hlog', hasks.append hasks'⟩

theorem alike_emitAll (events : List ε) :
    (alike S).couples Eq (Tracing.emitAll events) (Tracing.emitAll events) :=
  fun _ _ => ⟨.ok rfl, rfl, asks_events events⟩

theorem alike_put {answer answer' : Responder ε} (h : AgreeOn S answer answer') {action : Action}
    (haction : S action) : (alike S).couples Eq (answer.put action) (answer'.put action) := by
  intro past hpast
  have hanswer := h past hpast action haction
  unfold Responder.put
  rw [hanswer]
  refine ⟨agree_eq_iff.mpr rfl, rfl, fun s hs => ?_⟩
  cases List.mem_singleton.mp hs
  exact haction

end Alike

section Runs

variable {answer answer' : Responder ε} (h : AgreeOn (Arises index) answer answer')
include h

theorem alike_answers :
    (alike (Arises index)).Answers index answer.access answer'.access where
  fetch := alike_put h .fetch
  ensureBranches := alike_put h .ensureBranches
  reference p hp := alike_put h (.lookUp ⟨p, hp, .inl rfl⟩)
  tag p hp := alike_put h (.lookUp ⟨p, hp, .inr rfl⟩)

theorem alike_connect : (alike (Arises index)).couples ((alike (Arises index)).Answers index)
    answer.connect answer'.connect :=
  (alike _).bind (alike_put h .connect) fun _ _ _ => (alike _).pure (alike_answers h)

theorem runChecks_eq_of_agreeOn (mode : Mode) (observe : CheckResult → List ε) :
    runChecks index mode observe answer.connect [] =
      runChecks index mode observe answer'.connect [] := by
  have hruns := Coupling.couples_runChecks (fun r => alike_emitAll (observe r)) mode
    (alike_connect h)
  obtain ⟨hresult, hlog, -⟩ := hruns [] asks_nil
  exact congrArg₂ Traced.mk hlog.symm (agree_eq_iff.mp hresult)

end Runs

section Stores

inductive Entry where
  | commit (sha : String) (branches : List String)
  | tag (name sha : String)
  | remoteBranch (name : String)
  | failingFetch

def add (s : Store) : Entry → Store
  | .commit sha branches => s.withCommit sha branches
  | .tag name sha => s.withTag name sha
  | .remoteBranch name => s.withRemoteBranch name
  | .failingFetch => s.withFailingFetch

def build (s : Store) (entries : List Entry) : Store := entries.foldl add s

/-- Entries with some more among them: tags that the index does not name, and branches of the remote
that are none of its release candidates. -/
inductive Padded (index : ReleaseIndex) : List Entry → List Entry → Prop
  | nil : Padded index [] []
  | keep {entries more : List Entry} (entry : Entry) (h : Padded index entries more) :
    Padded index (entry :: entries) (entry :: more)
  | tag {entries more : List Entry} {name : String} (hname : ¬ IsNamed index name) (sha : String)
    (h : Padded index entries more) : Padded index entries (.tag name sha :: more)
  | remoteBranch {entries more : List Entry} {name : String} (hname : name ∉ index.rcNames)
    (h : Padded index entries more) : Padded index entries (.remoteBranch name :: more)

/-- Stores in which a run over the index finds the same. -/
structure Same (index : ReleaseIndex) (s t : Store) : Prop where
  commits : s.commits = t.commits
  references : ∀ name, IsNamed index name → s.references.get? name = t.references.get? name
  remoteBranches : ∀ rc ∈ index.rcNames, rc ∈ s.remoteBranches ↔ rc ∈ t.remoteBranches
  failingFetch : s.failingFetch = t.failingFetch

theorem Same.refl (s : Store) : Same index s s := ⟨rfl, fun _ _ => rfl, fun _ _ => Iff.rfl, rfl⟩

section Same

variable {s t : Store} (h : Same index s t)
include h

theorem Same.put (name sha : String) {other : String} (hother : IsNamed index other) :
    (s.references.put name sha).get? other = (t.references.put name sha).get? other := by
  by_cases hname : name = other
  · subst hname
    rw [Table.get?_put_self, Table.get?_put_self]
  · rw [Table.get?_put_of_ne hname, Table.get?_put_of_ne hname]
    exact h.references other hother

theorem Same.add (entry : Entry) : Same index (add s entry) (add t entry) := by
  cases entry with
  | commit sha branches =>
    have hcommits : s.commits.put sha (.ofList branches) = t.commits.put sha (.ofList branches) := by
      rw [h.commits]
    refine ⟨hcommits, fun _ => h.put sha sha, fun rc hrc => ?_, h.failingFetch⟩
    change rc ∈ branches ++ s.remoteBranches ↔ rc ∈ branches ++ t.remoteBranches
    rw [List.mem_append, List.mem_append]
    exact or_congr_right (h.remoteBranches rc hrc)
  | tag name sha =>
    exact ⟨h.commits, fun _ => h.put name sha, h.remoteBranches, h.failingFetch⟩
  | remoteBranch name =>
    refine ⟨h.commits, h.references, fun rc hrc => ?_, h.failingFetch⟩
    change rc ∈ name :: s.remoteBranches ↔ rc ∈ name :: t.remoteBranches
    rw [List.mem_cons, List.mem_cons]
    exact or_congr_right (h.remoteBranches rc hrc)
  | failingFetch => exact ⟨h.commits, h.references, h.remoteBranches, rfl⟩

theorem Same.withTag {name : String} (hname : ¬ IsNamed index name) (sha : String) :
    Same index s (t.withTag name sha) := by
  refine ⟨h.commits, fun other hother => ?_, h.remoteBranches, h.failingFetch⟩
  have hne : name ≠ other := fun heq => hname (heq ▸ hother)
  exact (h.references other hother).trans (Table.get?_put_of_ne hne).symm

theorem Same.withRemoteBranch {name : String} (hname : name ∉ index.rcNames) :
    Same index s (t.withRemoteBranch name) := by
  refine ⟨h.commits, h.references, fun rc hrc => ?_, h.failingFetch⟩
  have hne : rc ≠ name := fun heq => hname (heq ▸ hrc)
  change rc ∈ s.remoteBranches ↔ rc ∈ name :: t.remoteBranches
  rw [List.mem_cons, or_iff_right hne]
  exact h.remoteBranches rc hrc

theorem Same.ensureBranches :
    s.ensureBranches index.rcNames = t.ensureBranches index.rcNames := by
  have hmissing : index.rcNames.find? (fun name => !s.remoteBranches.contains name) =
      index.rcNames.find? fun name => !t.remoteBranches.contains name := by
    refine List.find?_congr fun rc hrc => ?_
    rw [List.contains_eq_mem, List.contains_eq_mem, decide_eq_decide.mpr (h.remoteBranches rc hrc)]
  unfold Store.ensureBranches
  rw [hmissing]

theorem Same.reply {action : Action} (haction : Arises index action) :
    s.accessor.reply action = t.accessor.reply action := by
  cases haction with
  | connect => rfl
  | fetch =>
    change s.fetch = t.fetch
    unfold Store.fetch
    rw [h.failingFetch]
  | ensureBranches => exact h.ensureBranches
  | @lookUp name hname =>
    change Except.ok (s.lookUp name) = Except.ok (t.lookUp name)
    unfold Store.lookUp
    rw [h.references name hname, h.commits]

end Same

theorem Padded.same {entries more : List Entry} (h : Padded index entries more) {s t : Store}
    (hst : Same index s t) : Same index (build s entries) (build t more) := by
  induction h generalizing s t with
  | nil => exact hst
  | keep entry _ ih => exact ih (hst.add entry)
  | tag hname sha _ ih => exact ih (hst.withTag hname sha)
  | remoteBranch hname _ ih => exact ih (hst.withRemoteBranch hname)

end Stores

/-- A run goes alike, to the last answer, over repositories that answer alike what the index makes it
ask; so it does over stores that differ in tags and branches that the index does not name. -/
theorem runChecks_confined (index : ReleaseIndex) (mode : Mode) (observe : CheckResult → List ε) :
    (∀ answer answer' : Responder ε, AgreeOn (Arises index) answer answer' →
      runChecks index mode observe answer.connect [] =
        runChecks index mode observe answer'.connect []) ∧
    ∀ (s : Store) (entries more : List Entry), Padded index entries more →
      runChecks index mode observe
          (Responder.connect fun _ => (build s entries).accessor.reply) [] =
        runChecks index mode observe
          (Responder.connect fun _ => (build s more).accessor.reply) [] := by
  refine ⟨fun _ _ h => runChecks_eq_of_agreeOn h mode observe, fun s entries more h => ?_⟩
  refine runChecks_eq_of_agreeOn (fun _ _ action haction => ?_) mode observe
  exact (h.same (Same.refl s)).reply haction

section Samples

/-- A repository that denies everything of a reference, and otherwise answers like another one. -/
def denying (reference : String) (answer : Responder ε) : Responder ε := fun past action =>
  match action with
  | .ask (.lookUp name) => if name = reference then .ok none else answer past (.lookUp name)
  | .ask (.ensureBranches names) => answer past (.ask (.ensureBranches names))
  | .ask .fetch => answer past (.ask .fetch)
  | .connect => answer past .connect

theorem agreeOn_denying {reference : String} (h : ¬ IsNamed index reference)
    (answer : Responder ε) : AgreeOn (Arises index) answer (denying reference answer) := by
  intro past _ action haction
  cases haction with
  | connect => rfl
  | fetch => rfl
  | ensureBranches => rfl
  | @lookUp name hname =>
    have hne : name ≠ reference := fun heq => h (heq ▸ hname)
    exact (if_neg hne).symm

def sampleEntries : List Entry :=
  [.commit "4f2e1c" ["rc--2024-05-03_09-30"], .tag "main" "4f2e1c", .tag "nightly" "4f2e1c"]

def sampleMore : List Entry :=
  [.tag "weekly" "4f2e1c", .commit "4f2e1c" ["rc--2024-05-03_09-30"], .tag "main" "4f2e1c",
    .remoteBranch "edge", .tag "nightly" "4f2e1c"]

def sampleAnswer (entries : List Entry) : Responder Unit :=
  fun _ => (build .empty entries).accessor.reply

theorem runChecks_confined_sample :
    let index := Steering.sampleIndex
    let run (answer : Responder Unit) := runChecks index .batch (fun _ => []) answer.connect []
    (sampleAnswer sampleEntries [] (.lookUp "nightly") ≠
      denying "nightly" (sampleAnswer sampleEntries) [] (.lookUp "nightly") ∧
      run (sampleAnswer sampleEntries) = run (denying "nightly" (sampleAnswer sampleEntries))) ∧
    run (sampleAnswer sampleEntries) = run (sampleAnswer sampleMore) := by
  intro index run
  have hunnamed : ∀ name ∈ ["nightly", "weekly"], ¬ IsNamed index name := by
    unfold IsNamed
    decide
  have hnightly := hunnamed "nightly" (by decide)
  have hweekly := hunnamed "weekly" (by decide)
  have hpadded : Padded index sampleEntries sampleMore :=
    .tag hweekly _ <| .keep _ <| .keep _ <| .remoteBranch (by decide) <| .keep _ .nil
  have hconfined := runChecks_confined index .batch fun _ => ([] : List Unit)
  refine ⟨⟨by decide, ?_⟩, ?_⟩
  · exact hconfined.1 _ _ (agreeOn_denying hnightly _)
  · exact hconfined.2 .empty sampleEntries sampleMore hpadded

end Samples

end Confinement
end ReleaseAudit

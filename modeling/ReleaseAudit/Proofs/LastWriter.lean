import ReleaseAudit.Proofs.Confinement
import Mathlib.Data.List.Induction

/-! A store in use: entries are added to it, and questions are put to it in between. Of the entries
that bind a name the last one counts, and a question changes nothing but what is counted of it. -/
namespace ReleaseAudit
namespace LastWriter

open Confinement (add build)

abbrev Entry := Confinement.Entry

/-! What an entry says of a name. -/

/-- The sha that a reference stands for by an entry. The sha of a commit stands for itself. -/
def target? (reference : String) : Entry → Option String
  | .commit sha _ => if sha = reference then some sha else none
  | .tag name sha => if name = reference then some sha else none
  | _ => none

/-- The branches that an entry puts a commit on. -/
def branches? (sha : String) : Entry → Option (List String)
  | .commit other names => if other = sha then some names else none
  | _ => none

def declared : Entry → List String
  | .commit _ names => names
  | .remoteBranch name => [name]
  | _ => []

/-- What the last of the entries that say something says. -/
def LastGiven {α : Type} (gives : Entry → Option α) (entries : List Entry) (a : α) : Prop :=
  ∃ before e after, entries = before ++ e :: after ∧ gives e = some a ∧
    ∀ other ∈ after, gives other = none

def Declared (entries : List Entry) (branch : String) : Prop := ∃ e ∈ entries, branch ∈ declared e

/-- What a store shows of a reference: nothing if it was never bound, nothing if the sha that it was
last bound to belongs to no commit, and otherwise that commit on the branches it was last put on. -/
inductive Shows (entries : List Entry) (reference : String) : Option Commit → Prop
  | unbound (h : ∀ e ∈ entries, target? reference e = none) : Shows entries reference none
  | dangling {sha : String} (h : LastGiven (target? reference) entries sha)
    (hsha : ∀ e ∈ entries, branches? sha e = none) : Shows entries reference none
  | found {sha : String} {names : List String} (h : LastGiven (target? reference) entries sha)
    (hsha : LastGiven (branches? sha) entries names) :
    Shows entries reference (some ⟨sha, .ofList names⟩)

/-- How a store answers when branches are asked for: it has them all, or lacks a first one. -/
inductive Grants (entries : List Entry) (names : List String) : Except Fault Unit → Prop
  | all (h : ∀ b ∈ names, Declared entries b) : Grants entries names (.ok ())
  | missing {before after : List String} {b : String} (hnames : names = before ++ b :: after)
    (h : ∀ x ∈ before, Declared entries x) (hb : ¬ Declared entries b) :
    Grants entries names (.error (.branchNotFound b))

section Entries

variable {α : Type} {gives : Entry → Option α} {entries : List Entry} {a : α}

theorem lastGiven_concat {e : Entry} : LastGiven gives (entries ++ [e]) a ↔
    gives e = some a ∨ gives e = none ∧ LastGiven gives entries a := by
  constructor
  · rintro ⟨before, other, after, hcut, hgives, hafter⟩
    rcases List.eq_nil_or_concat' after with rfl | ⟨more, last, rfl⟩
    · obtain ⟨-, rfl⟩ := List.append_inj' hcut rfl |>.imp id List.singleton_inj.mp
      exact .inl hgives
    · rw [← List.cons_append, ← List.append_assoc] at hcut
      obtain ⟨rfl, hlast⟩ := List.append_inj' hcut rfl
      obtain rfl := List.singleton_inj.mp hlast
      refine .inr ⟨hafter _ (by simp), before, other, more, rfl, hgives, fun x hx => ?_⟩
      exact hafter x (by simp [hx])
  · rintro (hgives | ⟨hnone, before, other, after, rfl, hgives, hafter⟩)
    · exact ⟨entries, e, [], rfl, hgives, fun _ h => nomatch h⟩
    · refine ⟨before, other, after ++ [e], by simp, hgives, fun x hx => ?_⟩
      rcases List.mem_append.mp hx with hx | hx
      · exact hafter x hx
      · obtain rfl := List.mem_singleton.mp hx
        exact hnone

theorem build_concat (s : Store) (entries : List Entry) (e : Entry) :
    build s (entries ++ [e]) = add (build s entries) e := List.foldl_concat ..

variable (view : Store → Option α) (hempty : view .empty = none)
  (hadd : ∀ s e, view (add s e) = (gives e).or (view s))
include hempty hadd

/-- A part of a store that each entry either sets or leaves as it is shows what was said last. -/
theorem view_build_eq_some : view (build .empty entries) = some a ↔ LastGiven gives entries a := by
  induction entries using List.reverseRecOn with
  | nil => exact iff_of_false (by simp [build, hempty]) (by simp [LastGiven])
  | append_singleton entries e ih =>
    rw [build_concat, hadd, lastGiven_concat, Option.or_eq_some_iff, ih]

theorem view_build_eq_none :
    view (build .empty entries) = none ↔ ∀ e ∈ entries, gives e = none := by
  induction entries using List.reverseRecOn with
  | nil => simp [build, hempty]
  | append_singleton entries e ih =>
    rw [build_concat, hadd, Option.or_eq_none_iff, ih, List.forall_mem_append,
      List.forall_mem_singleton, and_comm]

end Entries

section Stores

theorem get?_put {α : Type} (t : Table α) (name other : String) (a : α) :
    (t.put name a).get? other = (if name = other then some a else none).or (t.get? other) := by
  by_cases h : name = other
  · subst h
    simp
  · rw [Table.get?_put_of_ne h, if_neg h, Option.none_or]

theorem references_add (reference : String) (s : Store) (e : Entry) :
    (add s e).references.get? reference = (target? reference e).or (s.references.get? reference) := by
  cases e with
  | commit sha names => exact get?_put s.references sha reference sha
  | tag name sha => exact get?_put s.references name reference sha
  | remoteBranch name => rfl
  | failingFetch => rfl

theorem commits_add (sha : String) (s : Store) (e : Entry) : (add s e).commits.get? sha =
    ((branches? sha e).map BranchSet.ofList).or (s.commits.get? sha) := by
  cases e with
  | commit other names =>
    refine (get?_put s.commits other sha (.ofList names)).trans ?_
    rw [branches?, apply_ite (Option.map _), Option.map_some, Option.map_none]
  | tag name sha => rfl
  | remoteBranch name => rfl
  | failingFetch => rfl

variable {entries : List Entry} {reference sha : String}

theorem references_build_eq_some : (build .empty entries).references.get? reference = some sha ↔
    LastGiven (target? reference) entries sha :=
  view_build_eq_some (fun s => s.references.get? reference) rfl (references_add reference)

theorem references_build_eq_none : (build .empty entries).references.get? reference = none ↔
    ∀ e ∈ entries, target? reference e = none :=
  view_build_eq_none (fun s => s.references.get? reference) rfl (references_add reference)

theorem lastGiven_map {α β : Type} {gives : Entry → Option α} {f : α → β} {b : β} :
    LastGiven (fun e => (gives e).map f) entries b ↔ ∃ a, LastGiven gives entries a ∧ f a = b := by
  constructor
  · rintro ⟨before, e, after, hcut, hgives, hafter⟩
    obtain ⟨a, ha, rfl⟩ := Option.map_eq_some_iff.mp hgives
    have hnone := fun x hx => Option.map_eq_none_iff.mp (hafter x hx)
    exact ⟨a, ⟨before, e, after, hcut, ha, hnone⟩, rfl⟩
  · rintro ⟨a, ⟨before, e, after, hcut, hgives, hafter⟩, rfl⟩
    exact ⟨before, e, after, hcut, Option.map_eq_some_iff.mpr ⟨a, hgives, rfl⟩,
      fun x hx => Option.map_eq_none_iff.mpr (hafter x hx)⟩

theorem commits_build_eq_some {branches : BranchSet} :
    (build .empty entries).commits.get? sha = some branches ↔
      ∃ names, LastGiven (branches? sha) entries names ∧ .ofList names = branches :=
  (view_build_eq_some (fun s => s.commits.get? sha) rfl (commits_add sha)).trans lastGiven_map

theorem commits_build_eq_none : (build .empty entries).commits.get? sha = none ↔
    ∀ e ∈ entries, branches? sha e = none := by
  refine (view_build_eq_none (fun s => s.commits.get? sha) rfl (commits_add sha)).trans ?_
  simp only [Option.map_eq_none_iff]

theorem lookUp_build_iff {found : Option Commit} :
    (build .empty entries).lookUp reference = found ↔ Shows entries reference found := by
  unfold Store.lookUp
  constructor
  · rintro rfl
    cases hsha : (build .empty entries).references.get? reference with
    | none => exact .unbound (references_build_eq_none.mp hsha)
    | some sha =>
    have hlast := references_build_eq_some.mp hsha
    cases hbranches : (build .empty entries).commits.get? sha with
    | none =>
      simp only [Option.bind_eq_bind, Option.bind_some, hbranches, Option.bind_none]
      exact .dangling hlast (commits_build_eq_none.mp hbranches)
    | some branches =>
      obtain ⟨names, hnames, rfl⟩ := commits_build_eq_some.mp hbranches
      simp only [Option.bind_eq_bind, Option.bind_some, hbranches]
      exact .found hlast hnames
  · rintro (h | ⟨h, hsha⟩ | ⟨h, hsha⟩)
    · rw [references_build_eq_none.mpr h]
      rfl
    · rw [references_build_eq_some.mpr h]
      simp only [Option.bind_eq_bind, Option.bind_some, commits_build_eq_none.mpr hsha,
        Option.bind_none]
    · rw [references_build_eq_some.mpr h]
      simp only [Option.bind_eq_bind, Option.bind_some,
        commits_build_eq_some.mpr ⟨_, hsha, rfl⟩]
      rfl

theorem mem_remoteBranches_build {b : String} :
    b ∈ (build .empty entries).remoteBranches ↔ Declared entries b := by
  -- Entries come in at the end, so the induction takes them off from there.
  induction entries using List.reverseRecOn with
  | nil => simp [build, Store.empty, Declared]
  | append_singleton entries e ih =>
    have hadd : b ∈ (add (build .empty entries) e).remoteBranches ↔
        b ∈ declared e ∨ b ∈ (build .empty entries).remoteBranches := by
      cases e <;> simp [add, Store.withCommit, Store.withTag, Store.withRemoteBranch,
        Store.withFailingFetch, declared]
    rw [build_concat, hadd, ih]
    simp [Declared, or_and_right, exists_or, or_comm]

theorem ensureBranches_build_iff {names : List String} {result : Except Fault Unit} :
    (build .empty entries).ensureBranches names = result ↔ Grants entries names result := by
  have hlacks : ∀ b, (!(build .empty entries).remoteBranches.contains b) = true ↔
      ¬ Declared entries b := by
    intro b
    rw [Bool.not_eq_true', List.contains_eq_mem, decide_eq_false_iff_not, mem_remoteBranches_build]
  unfold Store.ensureBranches
  constructor
  · rintro rfl
    -- The search for a missing branch comes to the first one, or passes over all of them.
    cases hfind : names.find? fun b => !(build .empty entries).remoteBranches.contains b with
    | none =>
      refine .all fun b hb => ?_
      exact not_not.mp (mt (hlacks b).mpr (List.find?_eq_none.mp hfind b hb))
    | some b =>
      obtain ⟨hb, before, after, hnames, hbefore⟩ := List.find?_eq_some_iff_append.mp hfind
      refine .missing hnames (fun x hx => ?_) ((hlacks b).mp hb)
      have hx := hbefore x hx
      rw [Bool.not_not] at hx
      exact mem_remoteBranches_build.mp (List.contains_iff_mem.mp hx)
  · rintro (h | @⟨before, after, b, rfl, h, hb⟩)
    · have hfind := List.find?_eq_none.mpr fun b hb => mt (hlacks b).mp (not_not.mpr (h b hb))
      rw [hfind]
    · have hbefore : ∀ x ∈ before,
          (!!(build .empty entries).remoteBranches.contains x) = true := by
        intro x hx
        rw [Bool.not_not]
        exact List.contains_iff_mem.mpr (mem_remoteBranches_build.mpr (h x hx))
      have hfind : (before ++ b :: after).find?
          (fun b => !(build .empty entries).remoteBranches.contains b) = some b :=
        List.find?_eq_some_iff_append.mpr ⟨(hlacks b).mpr hb, before, after, rfl, hbefore⟩
      rw [hfind]

theorem failingFetch_build :
    (build .empty entries).failingFetch = true ↔ .failingFetch ∈ entries := by
  induction entries using List.reverseRecOn with
  | nil => simp [build, Store.empty]
  | append_singleton entries e ih =>
    rw [build_concat]
    cases e <;> simp [add, Store.withCommit, Store.withTag, Store.withRemoteBranch,
      Store.withFailingFetch, ih]

theorem fetch_build_eq_ok :
    (build .empty entries).fetch = .ok () ↔ .failingFetch ∉ entries := by
  rw [← failingFetch_build, Store.fetch]
  split <;> simp_all

theorem declared_of_shows {c : Commit} {b : String} (h : Shows entries reference (some c))
    (hb : b ∈ c.branches.names) : Declared entries b := by
  obtain - | - | ⟨-, before, e, after, rfl, hgives, -⟩ := h
  refine ⟨e, by simp, ?_⟩
  rw [BranchSet.mem_ofList] at hb
  unfold branches? at hgives
  split at hgives
  · split at hgives
    · obtain rfl := Option.some.inj hgives
      exact hb
    · cases hgives
  · cases hgives

end Stores

/-! Stores in use. -/

inductive Use where
  | add (entry : Entry)
  | ask (question : Call)

/-- A store in use, and how often it was brought up to date and asked for a reference. -/
structure InUse where
  store : Store
  fetches : Nat
  lookUps : Nat

namespace InUse

def start : InUse := ⟨.empty, 0, 0⟩

def put (s : Store) : (question : Call) → Traced Call (Action.ask question).Answer
  | .fetch => (s.accessor.traced id).fetch
  | .ensureBranches names => (s.accessor.traced id).ensureBranches names
  | .lookUp reference => (s.accessor.traced id).lookUp reference

def count (u : InUse) (log : List Call) : InUse :=
  { u with
    fetches := u.fetches + log.count .fetch
    lookUps := u.lookUps + log.countP fun question => (Action.ask question).isLookUp }

def answer (u : InUse) (question : Call) : Except Fault (Action.ask question).Answer :=
  (put u.store question).result

def after (u : InUse) : Use → InUse
  | .add entry => { u with store := Confinement.add u.store entry }
  | .ask question => u.count (put u.store question).log

end InUse

def used (uses : List Use) : InUse := uses.foldl InUse.after .start

def entryOf? : Use → Option Entry
  | .add entry => some entry
  | .ask _ => none

def questionOf? : Use → Option Call
  | .add _ => none
  | .ask question => some question

def entriesOf (uses : List Use) : List Entry := uses.filterMap entryOf?

def questionsOf (uses : List Use) : List Call := uses.filterMap questionOf?

section Uses

variable {uses : List Use}

theorem used_concat (uses : List Use) (use : Use) : used (uses ++ [use]) = (used uses).after use :=
  List.foldl_concat ..

theorem log_put (s : Store) (question : Call) : (InUse.put s question).log = [question] := by
  cases question <;> rfl

theorem answer_eq (u : InUse) (question : Call) :
    u.answer question = u.store.accessor.reply (.ask question) := by
  cases question <;> rfl

theorem count_append (u : InUse) (log more : List Call) :
    u.count (log ++ more) = (u.count log).count more := by
  simp [InUse.count, Nat.add_assoc]

/-- All that there is to a store in use: the entries make the store, the questions are counted. -/
theorem used_eq (uses : List Use) :
    used uses = InUse.count ⟨build .empty (entriesOf uses), 0, 0⟩ (questionsOf uses) := by
  induction uses using List.reverseRecOn with
  | nil => rfl
  | append_singleton uses use ih =>
    rw [used_concat, ih]
    cases use with
    | add entry =>
      have hentries : entriesOf (uses ++ [.add entry]) = entriesOf uses ++ [entry] := by
        simp [entriesOf, entryOf?]
      have hquestions : questionsOf (uses ++ [.add entry]) = questionsOf uses := by
        simp [questionsOf, questionOf?]
      rw [hentries, hquestions, build_concat]
      rfl
    | ask question =>
      have hentries : entriesOf (uses ++ [.ask question]) = entriesOf uses := by
        simp [entriesOf, entryOf?]
      have hquestions : questionsOf (uses ++ [.ask question]) = questionsOf uses ++ [question] := by
        simp [questionsOf, questionOf?]
      rw [hentries, hquestions, count_append, InUse.after, log_put]

theorem store_used (uses : List Use) : (used uses).store = build .empty (entriesOf uses) := by
  rw [used_eq]
  rfl

theorem answer_lookUp_iff {reference : String} {result : Except Fault (Option Commit)} :
    (used uses).answer (.lookUp reference) = result ↔
      ∃ found, result = .ok found ∧ Shows (entriesOf uses) reference found := by
  rw [answer_eq, store_used]
  constructor
  · rintro rfl
    exact ⟨_, rfl, lookUp_build_iff.mp rfl⟩
  · rintro ⟨found, rfl, h⟩
    exact congrArg Except.ok (lookUp_build_iff.mpr h)

theorem answer_ensureBranches_iff {names : List String} {result : Except Fault Unit} :
    (used uses).answer (.ensureBranches names) = result ↔ Grants (entriesOf uses) names result := by
  rw [answer_eq, store_used]
  exact ensureBranches_build_iff

theorem answer_fetch_eq_ok :
    (used uses).answer .fetch = .ok () ↔ .failingFetch ∉ entriesOf uses := by
  rw [answer_eq, store_used]
  exact fetch_build_eq_ok

end Uses

/-- Whatever was added to a store and asked of it in between, what it answers is told by the entries
alone, the last of each kind; and a question leaves behind no more than that it was asked. -/
theorem used_lastWriter (uses : List Use) :
    let u := used uses
    let entries := entriesOf uses
    (∀ reference result, u.answer (.lookUp reference) = result ↔
      ∃ found, result = .ok found ∧ Shows entries reference found) ∧
    (∀ names result, u.answer (.ensureBranches names) = result ↔ Grants entries names result) ∧
    (∀ reference c names, u.answer (.lookUp reference) = .ok (some c) →
      (∀ b ∈ names, b ∈ c.branches.names) → u.answer (.ensureBranches names) = .ok ()) ∧
    (u.answer .fetch = .ok () ↔ .failingFetch ∉ entries) ∧
    u.fetches = (questionsOf uses).count .fetch ∧
    u.lookUps = (questionsOf uses).countP (fun question => (Action.ask question).isLookUp) ∧
    ∀ question, u.after (.ask question) =
      ⟨u.store, u.fetches + if question = .fetch then 1 else 0,
        u.lookUps + if (Action.ask question).isLookUp then 1 else 0⟩ := by
  intro u entries
  refine ⟨fun _ _ => answer_lookUp_iff, fun _ _ => answer_ensureBranches_iff,
    fun reference c names hc hnames => ?_, answer_fetch_eq_ok, ?_, ?_, fun question => ?_⟩
  · obtain ⟨found, hfound, hshows⟩ := answer_lookUp_iff.mp hc
    obtain rfl := Except.ok.inj hfound
    exact answer_ensureBranches_iff.mpr (.all fun b hb => declared_of_shows hshows (hnames b hb))
  · simp [u, used_eq, InUse.count]
  · simp [u, used_eq, InUse.count]
  · rw [InUse.after, log_put, InUse.count, List.count_singleton, List.countP_singleton]
    simp only [beq_iff_eq]

section Samples

def sampleUses : List Use :=
  [.add (.tag "v1" "4f2e1c"), .ask (.lookUp "v1"), .add (.commit "4f2e1c" ["main"]), .ask .fetch,
    .add (.commit "4f2e1c" ["edge"])]

theorem used_lastWriter_sample :
    let u := used sampleUses
    u.answer (.lookUp "v1") = .ok (some ⟨"4f2e1c", .ofList ["edge"]⟩) ∧
      u.answer (.ensureBranches ["edge"]) = .ok () := by
  intro u
  have hfound : u.answer (.lookUp "v1") = .ok (some ⟨"4f2e1c", .ofList ["edge"]⟩) := by decide
  have hedge := (used_lastWriter sampleUses).2.2.1 "v1" _ ["edge"] hfound (by decide)
  exact ⟨hfound, hedge⟩

end Samples

end LastWriter
end ReleaseAudit

import ReleaseAudit.Git.Oracle
import ReleaseAudit.Proofs.Alphabet
import ReleaseAudit.Proofs.Coupling

/-! What a run makes git do, whatever texts stand in the index and whatever git answers. -/
namespace ReleaseAudit
namespace Steering

open Git
open Text (head?_append)

variable {α β : Type}

abbrev Past := List (Execution ⊕ Effect)

/-- Every command of the log was permitted when it was issued. -/
def Heeds (permitted : Past → Command → Prop) (past log : Past) : Prop :=
  ∀ before execution after, log = before ++ .inl execution :: after →
    permitted (past ++ before) execution.command

variable {permitted : Past → Command → Prop} {past : Past}

theorem heeds_nil : Heeds permitted past [] := by
  intro before execution after h
  simp at h

theorem heeds_effects (effects : List Effect) : Heeds permitted past (effects.map .inr) := by
  intro before execution after h
  have hmem : .inl execution ∈ effects.map (Sum.inr : Effect → Execution ⊕ Effect) := by simp [h]
  simp at hmem

theorem heeds_one {execution : Execution} (h : permitted past execution.command) :
    Heeds permitted past [.inl execution] := by
  intro before other after hlog
  cases before with
  | nil =>
    cases hlog
    rwa [List.append_nil]
  | cons e before => simp at hlog

theorem Heeds.append {log more : Past} (h : Heeds permitted past log)
    (k : Heeds permitted (past ++ log) more) : Heeds permitted past (log ++ more) := by
  intro before execution after hcut
  rcases List.append_eq_append_iff.mp hcut with ⟨middle, hbefore, hmore⟩ | ⟨middle, hlog, hafter⟩
  · rw [hbefore, ← List.append_assoc]
    exact k middle execution after hmore
  · cases middle with
    | nil =>
      rw [List.append_nil] at hlog
      have := k [] execution after hafter.symm
      rwa [List.append_nil, hlog] at this
    | cons e middle =>
      obtain ⟨rfl, -⟩ := List.cons.inj hafter
      exact h before execution middle hlog

/-- A conversation in which nothing is issued that is not permitted. -/
def Keeps (permitted : Past → Command → Prop) (x : Conversation Execution Effect α) : Prop :=
  ∀ past, Heeds permitted past (x past).log

theorem keeps_pure (a : α) : Keeps permitted (pure a : Conversation Execution Effect α) :=
  fun _ => heeds_nil

theorem keeps_emitAll (effects : List Effect) :
    Keeps permitted (Tracing.emitAll effects : Conversation Execution Effect Unit) :=
  fun _ => heeds_effects effects

theorem keeps_ofExcept (result : Except Fault α) :
    Keeps permitted (Tracing.ofExcept result : Conversation Execution Effect α) := by
  intro past
  cases result <;> exact heeds_nil

/-- What comes second knows the value and the log of what came first. -/
theorem heeds_bind {x : Conversation Execution Effect α} {f : α → Conversation Execution Effect β}
    (hx : Heeds permitted past (x past).log)
    (hf : ∀ a, (x past).result = .ok a →
      Heeds permitted (past ++ (x past).log) (f a (past ++ (x past).log)).log) :
    Heeds permitted past ((x >>= f) past).log := by
  rw [Conversation.bind_apply]
  cases hr : (x past).result with
  | error e =>
    rw [Traced.bind_of_error hr]
    exact hx
  | ok a =>
    rw [Traced.bind_of_ok hr]
    exact hx.append (hf a hr)

theorem Keeps.bind {x : Conversation Execution Effect α} {f : α → Conversation Execution Effect β}
    (hx : Keeps permitted x) (hf : ∀ a, Keeps permitted (f a)) : Keeps permitted (x >>= f) :=
  fun past => heeds_bind (hx past) fun a _ => hf a _

/-- Conversations in which nothing is issued that is not permitted, each beside itself. -/
def keeping (permitted : Past → Command → Prop) :
    Coupling (Conversation Execution Effect) (Conversation Execution Effect) where
  couples S x y := ∀ past, Heeds permitted past (x past).log ∧
    Agree S (x past).result (y past).result ∧ (y past).log = (x past).log
  pure h _ := ⟨heeds_nil, .ok h, rfl⟩
  fail _ e _ := ⟨heeds_nil, .error e, rfl⟩
  bind {_ _ _ _ _ _ x y _ _} hxy hfg past := by
    obtain ⟨hheeds, hresult, hlog⟩ := hxy past
    rw [Conversation.bind_apply, Conversation.bind_apply, hlog]
    generalize x past = cx, y past = cy at *
    obtain ⟨log, rx⟩ := cx
    obtain ⟨log', ry⟩ := cy
    cases hresult with
    | error e => exact ⟨hheeds, .error e, hlog⟩
    | ok hab =>
      obtain ⟨hheeds', hresult', hlog'⟩ := hfg _ _ hab (past ++ log)
      rw [Traced.bind_of_ok rfl, Traced.bind_of_ok rfl]
      refine ⟨hheeds.append hheeds', hresult', ?_⟩
      exact congrArg₂ _ hlog hlog'

theorem keeping_iff {x : Conversation Execution Effect α} :
    (keeping permitted).couples Eq x x ↔ Keeps permitted x :=
  ⟨fun h past => (h past).1, fun h past => ⟨h past, agree_eq_iff.mpr rfl, rfl⟩⟩

theorem keeping_shell {git : Oracle} {allowed : Command → Prop} (failure : String) {command : Command}
    (h : allowed command) : (keeping fun _ => allowed).couples Eq (git.shell failure command)
      (git.shell failure command) :=
  keeping_iff.mpr fun _ => heeds_one h

theorem keeping_effects (effects : List Effect) :
    (keeping permitted).couples Eq (Tracing.emitAll effects) (Tracing.emitAll effects) :=
  keeping_iff.mpr (keeps_emitAll effects)

def issued (log : Past) : List Command :=
  log.filterMap fun event => event.getLeft?.map Execution.command

theorem allowed_of_heeds {allowed : Command → Prop} {log : Past}
    (h : Heeds (fun _ => allowed) past log) : ∀ command ∈ issued log, allowed command := by
  intro command hcommand
  obtain ⟨event, hevent, hissued⟩ := List.mem_filterMap.mp hcommand
  obtain ⟨execution, hexecution, rfl⟩ := Option.map_eq_some_iff.mp hissued
  obtain ⟨before, after, hlog⟩ := List.append_of_mem hevent
  rw [Sum.getLeft?_eq_some_iff.mp hexecution] at hlog
  exact h before execution after hlog

/-- How every command line begins: with fixed settings and the folder of the clone. -/
def lead (c : Clone) : List String :=
  ["-c", "protocol.version=2", "-c", "advice.detachedHead=false", "-c", "core.quotePath=false",
    "-C", c.path.text]

/-- What a successful `rev-parse` has printed before, without the blanks around it. -/
def Resolved (c : Clone) (past : Past) (sha : String) : Prop :=
  ∃ command reply spec, .inl ⟨command, .ok reply⟩ ∈ past ∧
    command.args = lead c ++ ["rev-parse", "--verify", "--quiet", spec] ∧
    reply.isSuccess = true ∧ sha = Text.trim reply.out

/-- The references of an index and the tags that it expects. -/
def IsNamed (index : ReleaseIndex) (name : String) : Prop :=
  ∃ p ∈ index.versions, name = p.2.reference ∨ name = p.1.tagName p.2

/-- The commands that a run over an index may issue after `past`. -/
inductive Permitted (index : ReleaseIndex) (c : Clone) (past : Past) : List String → Prop
  | fetch : Permitted index c past ["fetch", "--prune", "--tags", "--force", "origin"]
  | hasBranch {rc : String} (h : rc ∈ index.rcNames) :
    Permitted index c past ["show-ref", "--verify", "--quiet", "refs/remotes/origin/" ++ rc]
  | fetchBranch {rc : String} (h : rc ∈ index.rcNames) :
    Permitted index c past
      ["fetch", "origin", "+refs/heads/" ++ rc ++ ":refs/remotes/origin/" ++ rc]
  | resolve {name : String} (h : IsNamed index name) (hne : name ≠ "")
    (hdash : name.toList.head? ≠ some '-') :
    Permitted index c past ["rev-parse", "--verify", "--quiet", name ++ "^\x7bcommit\x7d"]
  | published {sha : String} (h : Resolved c past sha) :
    Permitted index c past ["for-each-ref", "--count=1", "--format=%(refname)", "--contains", sha,
      "refs/remotes/origin", "refs/tags"]
  | containing {sha : String} (h : Resolved c past sha) :
    Permitted index c past ["for-each-ref", "--format=%(refname)", "--contains", sha,
      "refs/remotes/origin"]

def Sanctioned (index : ReleaseIndex) (c : Clone) (past : Past) (command : Command) : Prop :=
  ∃ args, command.args = lead c ++ args ∧ Permitted index c past args

section Runs

variable {index : ReleaseIndex} {c : Clone} {git : Oracle}

theorem heeds_within {failure : String} {args : List String} (h : Permitted index c past args) :
    Heeds (Sanctioned index c) past (git.within c failure args past).log :=
  heeds_one ⟨args, rfl, h⟩

theorem keeps_fetch : Keeps (Sanctioned index c) (git.access c).fetch := by
  refine (keeps_emitAll _).bind fun _ => ?_
  refine Keeps.bind (fun past => heeds_within .fetch) fun reply => ?_
  exact (keeps_ofExcept _).bind fun _ => keeps_emitAll _

theorem refspec_eq (branch : String) :
    refspec branch = "+refs/heads/" ++ branch ++ ":refs/remotes/origin/" ++ branch := by
  have hlead : ":" ++ (remoteRefs ++ "/") = ":refs/remotes/origin/" := by decide
  rw [← hlead]
  simp only [refspec, branchRef, String.append_assoc]

theorem keeps_ensureBranches {names : List String} (h : ∀ rc ∈ names, rc ∈ index.rcNames) :
    Keeps (Sanctioned index c) ((git.access c).ensureBranches names) := by
  induction names with
  | nil => exact keeps_pure ()
  | cons rc names ih =>
    have hrc : rc ∈ index.rcNames := h rc (by simp)
    have hshow : Keeps (Sanctioned index c) ((git.within c).hasBranch rc) :=
      Keeps.bind (fun past => heeds_within (.hasBranch hrc)) fun _ => keeps_pure _
    have hfetch : Keeps (Sanctioned index c) ((git.within c).fetchBranch rc) := by
      refine Keeps.bind (fun past => heeds_within ?_) fun _ => keeps_ofExcept _
      rw [fetchBranchArgs, refspec_eq]
      exact .fetchBranch hrc
    have hensure : Keeps (Sanctioned index c) ((git.within c).ensureBranch rc) := by
      refine hshow.bind fun known => ?_
      cases known
      · exact hfetch
      · exact keeps_pure ()
    exact hensure.bind fun _ => ih fun rc hrc => h rc (by simp [hrc])

theorem log_within (failure : String) (args : List String) (past : Past) :
    (git.within c failure args past).log =
      [.inl ⟨c.command args, (git past).answer (c.command args)⟩] := rfl

theorem answer_of_within {failure : String} {args : List String} {reply : Reply}
    (h : (git.within c failure args past).result = .ok reply) :
    (git past).answer (c.command args) = .ok reply := by
  change ((git past).answer (c.command args)).mapError _ = _ at h
  cases hanswer : (git past).answer (c.command args) with
  | error e => simp [hanswer, Except.mapError] at h
  | ok r => simpa [hanswer, Except.mapError] using h

theorem keeps_resolve {reference : String} (h : IsNamed index reference) :
    Keeps (Sanctioned index c) ((git.within c).resolve reference) := by
  unfold Runner.resolve
  split
  · exact keeps_pure none
  · next hsafe =>
    obtain ⟨hne, hdash⟩ : reference ≠ "" ∧ reference.toList.head? ≠ some '-' := by
      simpa [isUnsafe] using hsafe
    exact Keeps.bind (fun past => heeds_within (.resolve h hne hdash)) fun _ => keeps_pure _

/-- The sha that `resolve` comes to is what a `rev-parse` has printed. -/
theorem resolved_of_resolve {reference sha : String}
    (h : ((git.within c).resolve reference past).result = .ok (some sha)) :
    Resolved c (past ++ ((git.within c).resolve reference past).log) sha := by
  unfold Runner.resolve at h ⊢
  split at h
  · cases h
  · next hsafe =>
    rw [if_neg hsafe, Conversation.bind_apply]
    rw [Conversation.bind_apply] at h
    obtain ⟨reply, hreply, h⟩ := Traced.result_bind_eq_ok.mp h
    have hanswer := answer_of_within hreply
    rw [Traced.bind_of_ok hreply, log_within, hanswer]
    obtain ⟨hsuccess, hsha⟩ : reply.isSuccess = true ∧ Text.trim reply.out = sha := by
      simpa [Conversation.pure_apply] using h
    refine ⟨c.command (resolveArgs reference), reply, _, ?_, rfl, hsuccess, hsha.symm⟩
    simp

theorem Resolved.append {sha : String} (h : Resolved c past sha) (more : Past) :
    Resolved c (past ++ more) sha := by
  obtain ⟨command, reply, spec, hmem, hrest⟩ := h
  exact ⟨command, reply, spec, List.mem_append_left _ hmem, hrest⟩

theorem heeds_isPublished {sha : String} (h : Resolved c past sha) :
    Heeds (Sanctioned index c) past ((git.within c).isPublished sha past).log := by
  refine heeds_bind (heeds_within (.published h)) fun reply _ => ?_
  exact (keeps_ofExcept _).bind (fun _ => keeps_pure _) _

theorem heeds_branchesContaining {sha : String} (h : Resolved c past sha) :
    Heeds (Sanctioned index c) past ((git.within c).branchesContaining sha past).log := by
  refine heeds_bind (heeds_within (.containing h)) fun reply _ => ?_
  exact (keeps_ofExcept _).bind (fun _ => keeps_pure _) _

theorem keeps_lookUp {reference : String} (h : IsNamed index reference) :
    Keeps (Sanctioned index c) ((git.access c).lookUp reference) := by
  intro past
  refine heeds_bind (keeps_resolve h past) fun found hfound => ?_
  cases found with
  | none => exact keeps_pure none _
  | some sha =>
    have hsha := resolved_of_resolve hfound
    refine heeds_bind (heeds_isPublished hsha) fun known _ => ?_
    cases known with
    | false => exact keeps_pure none _
    | true =>
      refine heeds_bind (heeds_branchesContaining (hsha.append _)) fun branches _ => ?_
      exact keeps_pure _ _

theorem answers_access :
    (keeping (Sanctioned index c)).Answers index (git.access c) (git.access c) where
  fetch := keeping_iff.mpr keeps_fetch
  ensureBranches := keeping_iff.mpr (keeps_ensureBranches fun _ h => h)
  reference p hp := keeping_iff.mpr (keeps_lookUp ⟨p, hp, .inl rfl⟩)
  tag p hp := keeping_iff.mpr (keeps_lookUp ⟨p, hp, .inr rfl⟩)

theorem keeps_runChecks (mode : Mode) (observe : CheckResult → List Effect) :
    Keeps (Sanctioned index c) (runChecks index mode observe (pure (git.access c))) := by
  refine keeping_iff.mp (Coupling.couples_runChecks ?_ mode ?_)
  · exact fun r => keeping_iff.mpr (keeps_emitAll _)
  · exact (keeping _).pure answers_access

end Runs

def options : List String :=
  ["--prune", "--tags", "--force", "--verify", "--quiet", "--count=1", "--format=%(refname)",
    "--contains"]

/-- The words that a command is made of, apart from texts of the index and shas. -/
def words : List String :=
  ["fetch", "origin", "show-ref", "rev-parse", "for-each-ref", "refs/remotes/origin", "refs/tags"] ++
    options

theorem mem_options_of_mem_words :
    ∀ a ∈ words, a.toList.head? = some '-' → a ∈ options := by decide

theorem mem_words_or {index : ReleaseIndex} {c : Clone} {args : List String}
    (h : Permitted index c past args) {a : String} (ha : a ∈ args) :
    a ∈ words ∨ Resolved c past a ∨ a.toList.head? ≠ some '-' := by
  cases h with
  | fetch =>
    left
    revert a
    decide
  | @hasBranch rc =>
    have htext : ("refs/remotes/origin/" ++ rc).toList.head? ≠ some '-' := by
      rw [head?_append (by decide)]
      decide
    simp only [List.mem_cons, List.not_mem_nil, or_false] at ha
    rcases ha with rfl | rfl | rfl | rfl
    exacts [.inl (by decide), .inl (by decide), .inl (by decide), .inr (.inr htext)]
  | @fetchBranch rc =>
    have htext : ("+refs/heads/" ++ rc ++ ":refs/remotes/origin/" ++ rc).toList.head? ≠
        some '-' := by
      rw [String.append_assoc, String.append_assoc, head?_append (by decide)]
      decide
    simp only [List.mem_cons, List.not_mem_nil, or_false] at ha
    rcases ha with rfl | rfl | rfl
    exacts [.inl (by decide), .inl (by decide), .inr (.inr htext)]
  | @resolve name _ hne hdash =>
    have htext : (name ++ "^\x7bcommit\x7d").toList.head? ≠ some '-' := by
      rwa [head?_append hne]
    simp only [List.mem_cons, List.not_mem_nil, or_false] at ha
    rcases ha with rfl | rfl | rfl | rfl
    exacts [.inl (by decide), .inl (by decide), .inl (by decide), .inr (.inr htext)]
  | published hsha =>
    simp only [List.mem_cons, List.not_mem_nil, or_false] at ha
    rcases ha with rfl | rfl | rfl | rfl | rfl | rfl | rfl
    exacts [.inl (by decide), .inl (by decide), .inl (by decide), .inl (by decide),
      .inr (.inl hsha), .inl (by decide), .inl (by decide)]
  | containing hsha =>
    simp only [List.mem_cons, List.not_mem_nil, or_false] at ha
    rcases ha with rfl | rfl | rfl | rfl | rfl
    exacts [.inl (by decide), .inl (by decide), .inl (by decide), .inr (.inl hsha),
      .inl (by decide)]

/-- No text of the index stands where git would look for an option. -/
theorem mem_options_of_dash {index : ReleaseIndex} {c : Clone} {args : List String}
    (h : Permitted index c past args) {a : String} (ha : a ∈ args)
    (hdash : a.toList.head? = some '-') : a ∈ options ∨ Resolved c past a := by
  rcases mem_words_or h ha with hword | hsha | hnone
  · exact .inl (mem_options_of_mem_words a hword hdash)
  · exact .inr hsha
  · exact absurd hdash hnone

theorem count_colon_of_fetch {index : ReleaseIndex} (hdated : ∀ r ∈ index.releases, r.Dated)
    {c : Clone} {args : List String} (h : Permitted index c past args) {spec : String}
    (hargs : args = ["fetch", "origin", spec]) : spec.toList.count ':' = 1 := by
  cases h with
  | @fetchBranch rc hrc =>
    have hnone : rc.toList.count ':' = 0 := by
      obtain ⟨r, hr, rfl⟩ := List.mem_map.mp (mem_firstOccurrences.mp hrc)
      exact List.count_eq_zero.mpr (Alphabet.colon_notMem_rcName (hdated r hr))
    have hhead : ("+refs/heads/").toList.count ':' = 0 := by decide
    have hmiddle : (":refs/remotes/origin/").toList.count ':' = 1 := by decide
    simp only [List.cons.injEq, and_true, true_and] at hargs
    rw [← hargs]
    simp only [String.toList_append, List.count_append, hnone, hhead, hmiddle]
  | _ => simp at hargs

/-- Every command of a run is one of a few, with nothing from the index in it but the names of the
release candidates, the references and the expected tags, and with no sha in it that git has not
printed. -/
theorem runChecks_steered (index : ReleaseIndex) (hdated : ∀ r ∈ index.releases, r.Dated)
    (mode : Mode) (observe : CheckResult → List Effect) (c : Clone) (git : Oracle)
    {before after : Past} {execution : Execution}
    (h : (runChecks index mode observe (pure (git.access c)) []).log =
      before ++ .inl execution :: after) :
    ∃ args, execution.command.args = lead c ++ args ∧ Permitted index c before args ∧
      (∀ a ∈ args, a.toList.head? = some '-' → a ∈ options ∨ Resolved c before a) ∧
      ∀ spec, args = ["fetch", "origin", spec] → spec.toList.count ':' = 1 := by
  obtain ⟨args, hargs, hpermitted⟩ := keeps_runChecks mode observe [] before execution after h
  exact ⟨args, hargs, hpermitted, fun a ha => mem_options_of_dash hpermitted ha,
    fun spec => count_colon_of_fetch hdated hpermitted⟩

section Samples

def sampleClone : Clone := ⟨⟨"/cache/components"⟩, [], fun _ => .error .notFound⟩

def sampleReply : Reply := ⟨0, "4f2e1c\n", ""⟩

def sampleGit : Oracle := steady fun _ => .ok sampleReply

def sampleIndex : ReleaseIndex :=
  ⟨[⟨"rc--2024-05-03_09-30", ⟨⟨2024, 5, 3, 9, 30⟩, by decide⟩,
    [⟨"base", "main"⟩, ⟨"--exec", "--upload-pack=x"⟩]⟩]⟩

def sampleLog : Past :=
  (runChecks sampleIndex .batch (fun _ => []) (pure (sampleGit.access sampleClone)) []).log

theorem runChecks_steered_sample :
    (∀ r ∈ sampleIndex.releases, r.Dated) ∧
    ∃ args, (sampleClone.command (resolveArgs "main")).args = lead sampleClone ++ args ∧
      Permitted sampleIndex sampleClone (sampleLog.take 4) args ∧
      (∀ a ∈ args, a.toList.head? = some '-' →
        a ∈ options ∨ Resolved sampleClone (sampleLog.take 4) a) ∧
      ∀ spec, args = ["fetch", "origin", spec] → spec.toList.count ':' = 1 := by
  have hdated : ∀ r ∈ sampleIndex.releases, r.Dated := by
    intro r hr
    rw [List.mem_singleton.mp hr]
    rfl
  have hlog : sampleLog = sampleLog.take 4 ++
      .inl ⟨sampleClone.command (resolveArgs "main"), .ok sampleReply⟩ :: sampleLog.drop 5 := rfl
  exact ⟨hdated, runChecks_steered sampleIndex hdated .batch (fun _ => []) sampleClone sampleGit hlog⟩

end Samples

end Steering
end ReleaseAudit

import ReleaseAudit.Git.Oracle
import ReleaseAudit.Git.Script
import ReleaseAudit.Proofs.Steadiness
import ReleaseAudit.Repository.Store

/-! A clone whose git answers from a store: runs over the clone and over the store come to the
same. -/
namespace ReleaseAudit
namespace Faithful

open Git

/-- A text that can be handed on to a command. -/
def NulFree (s : String) : Prop := '\x00' ∉ s.toList

instance (s : String) : Decidable (NulFree s) := inferInstanceAs (Decidable (_ ∉ _))

/-- The texts of an index can all be handed on to commands. -/
structure Sendable (index : ReleaseIndex) : Prop where
  rcName : ∀ r ∈ index.releases, NulFree r.rcName
  name : ∀ p ∈ index.versions, NulFree p.2.name
  reference : ∀ p ∈ index.versions, NulFree p.2.reference

/-- A name as git prints it, without blanks. -/
structure Printable (name : String) : Prop where
  ne_empty : name ≠ ""
  noBlank : ∀ c ∈ name.toList, Text.isBlank c = false

instance (name : String) : Decidable (Printable name) :=
  decidable_of_iff (name ≠ "" ∧ (name.toList.all fun c => !Text.isBlank c) = true)
    ⟨fun h => ⟨h.1, by simpa using h.2⟩, fun h => ⟨h.ne_empty, by simpa using h.noBlank⟩⟩

/-- A store whose names could stand in a repository. -/
structure Regular (s : Store) : Prop where
  reference : ∀ e ∈ s.references, isUnsafe e.1 = false
  sha : ∀ e ∈ s.commits, Printable e.1 ∧ NulFree e.1
  branch : ∀ e ∈ s.commits, ∀ b ∈ e.2.names, Printable b ∧ b ≠ "HEAD"

/-- Whatever happened before, git answers from the store to commands inside the clone. -/
structure FaithfulTo (s : Store) (c : Clone) (git : Oracle) : Prop where
  fetch : ∀ past, ∃ reply, git past (c.command (fetchArgs remoteName)) = .ok reply ∧
    if s.failingFetch then reply.isSuccess = false ∧
      reply.err = "fatal: 'origin' does not appear to be a git repository"
    else reply.isSuccess = true
  hasBranch : ∀ past branch, ∃ reply, git past (c.command (hasBranchArgs branch)) = .ok reply ∧
    (reply.isSuccess = true ↔ branch ∈ s.remoteBranches)
  fetchBranch : ∀ past branch, branch ∉ s.remoteBranches →
    ∃ reply, git past (c.command (fetchBranchArgs branch)) = .ok reply ∧
      reply.isSuccess = false ∧ Text.contains reply.err "couldn't find remote ref" = true
  resolve : ∀ past reference, ∃ reply, git past (c.command (resolveArgs reference)) = .ok reply ∧
    match s.lookUp reference with
    | some commit => reply.isSuccess = true ∧ reply.out = commit.sha ++ "\n"
    | none => reply.status = 1
  published : ∀ past sha branches, s.commits.get? sha = some branches →
    ∃ reply, git past (c.command (publishedArgs sha)) = .ok reply ∧
      reply.isSuccess = true ∧ Text.isAllBlank reply.out = false
  containing : ∀ past sha branches, s.commits.get? sha = some branches →
    ∃ (reply : Reply) (names : List String), git past (c.command (containingArgs sha)) = .ok reply ∧
      reply.isSuccess = true ∧ reply.out = Text.unlines (names.map branchRef) ∧
      (∀ b ∈ branches.names, b ∈ names) ∧ ∀ b ∈ names, b ∈ branches.names ∨ b = "HEAD"

/-- A conversation beside a computation that comes to the same, whatever happened before. -/
def comparing (δ : Type) : Coupling (Conversation Execution Effect) (Traced δ) := .always .results

theorem mem_of_get? {α : Type} {t : Table α} {name : String} {a : α} (h : t.get? name = some a) :
    (name, a) ∈ t := by
  obtain ⟨⟨key, b⟩, he, rfl⟩ := Option.map_eq_some_iff.mp h
  have hkey : key = name := by simpa using List.find?_some he
  exact hkey ▸ List.mem_of_find?_eq_some he

section Texts

variable {s t : String}

theorem NulFree.append (hs : NulFree s) (ht : NulFree t) : NulFree (s ++ t) := by
  unfold NulFree at *
  simp [hs, ht]

theorem nulFree_tagName {index : ReleaseIndex} (h : Sendable index) {p : Release × Version}
    (hp : p ∈ index.versions) : NulFree (p.1.tagName p.2) := by
  have hrc : '\x00' ∉ stripRcPrefix p.1.rcName := by
    intro hmem
    refine h.rcName p.1 (ReleaseIndex.mem_versions.mp hp).1 ?_
    unfold stripRcPrefix at hmem
    split at hmem
    · exact List.mem_of_mem_drop hmem
    · exact hmem
  have hlead : NulFree "release-" := by decide
  have hmiddle : NulFree "-" := by decide
  have hstamp : NulFree (String.ofList (stripRcPrefix p.1.rcName)) := by
    unfold NulFree
    rwa [String.toList_ofList]
  exact ((hlead.append hstamp).append hmiddle).append (h.name p hp)

theorem nulFree_branchRef (h : NulFree s) : NulFree (branchRef s) := by
  have hlead : NulFree (remoteRefs ++ "/") := by decide
  exact hlead.append h

theorem nulFree_refspec (h : NulFree s) : NulFree (refspec s) := by
  have hhead : NulFree "+refs/heads/" := by decide
  have hcolon : NulFree ":" := by decide
  exact ((hhead.append h).append hcolon).append (nulFree_branchRef h)

end Texts

theorem branchOf?_of_printable {branch : String} (h : Printable branch ∧ branch ≠ "HEAD") :
    branchOf? (branchRef branch) = some branch :=
  branchOf?_branchRef h.1.ne_empty h.2 h.1.noBlank

/-- The lines of git are the names of the branches again. The pointer to the main branch and the
empty text after the last line are none. -/
theorem ofList_lines_eq {branches : BranchSet} {names : List String}
    (hbranch : ∀ b ∈ branches.names, Printable b ∧ b ≠ "HEAD")
    (hall : ∀ b ∈ branches.names, b ∈ names)
    (honly : ∀ b ∈ names, b ∈ branches.names ∨ b = "HEAD") :
    BranchSet.ofList ((Text.lines (Text.unlines (names.map branchRef))).filterMap branchOf?) =
      branches := by
  have hline : ∀ l ∈ names.map branchRef, '\n' ∉ l.toList := by
    intro l hl
    obtain ⟨b, hb, rfl⟩ := List.mem_map.mp hl
    have hlead : '\n' ∉ (remoteRefs ++ "/").toList := by decide
    rw [branchRef, String.toList_append, List.mem_append, not_or]
    refine ⟨hlead, fun hmem => ?_⟩
    rcases honly b hb with hb | rfl
    · exact absurd ((hbranch b hb).1.noBlank _ hmem) (by decide)
    · exact absurd hmem (by decide)
  refine BranchSet.eq_of_mem_iff fun x => ?_
  rw [BranchSet.mem_ofList, Text.lines_unlines hline, List.mem_filterMap]
  constructor
  · rintro ⟨l, hl, hx⟩
    -- Behind the last line feed there is an empty text, which tells of no branch.
    rcases List.mem_append.mp hl with hl | hl
    · obtain ⟨b, hb, rfl⟩ := List.mem_map.mp hl
      rcases honly b hb with hb | rfl
      · rw [branchOf?_of_printable (hbranch b hb)] at hx
        exact Option.some.inj hx ▸ hb
      · simp at hx
    · rw [List.mem_singleton.mp hl] at hx
      simp at hx
  · intro hx
    refine ⟨branchRef x, List.mem_append_left _ (List.mem_map_of_mem (hall x hx)), ?_⟩
    exact branchOf?_of_printable (hbranch x hx)

theorem Regular.lookUp_of_isUnsafe {s : Store} (hs : Regular s) {reference : String}
    (h : isUnsafe reference = true) : s.lookUp reference = none := by
  unfold Store.lookUp
  cases hget : s.references.get? reference with
  | none => rfl
  | some sha =>
    have hsafe : isUnsafe reference = false := hs.reference _ (mem_of_get? hget)
    rw [hsafe] at h
    cases h

theorem get?_sha_of_lookUp {s : Store} {reference : String} {commit : Commit}
    (h : s.lookUp reference = some commit) : s.commits.get? commit.sha = some commit.branches := by
  unfold Store.lookUp at h
  obtain ⟨sha, -, h⟩ := Option.bind_eq_some_iff.mp h
  obtain ⟨branches, hbranches, h⟩ := Option.bind_eq_some_iff.mp h
  cases h
  exact hbranches

section Commands

variable {c : Clone} {git : Oracle} {past : List (Execution ⊕ Effect)}

theorem hasNul_command (hpath : NulFree c.path.text) {args : List String}
    (h : ∀ a ∈ args, NulFree a) : (c.command args).hasNul = false := by
  have hsettings : ∀ a ∈ safeSettings, NulFree a := by decide
  have hlead : ∀ a ∈ (["-C", c.path.text] : List String), NulFree a := by
    simp only [List.forall_mem_cons, List.not_mem_nil, false_imp_iff, implies_true, and_true]
    exact ⟨by decide, hpath⟩
  have hall : ∀ a ∈ (c.command args).args, NulFree a :=
    List.forall_mem_append.mpr ⟨hsettings, List.forall_mem_append.mpr ⟨hlead, h⟩⟩
  rw [Command.hasNul, List.any_eq_false]
  intro a ha
  simpa [NulFree] using hall a ha

/-- A command that can be started is answered by git. -/
theorem result_within (hpath : NulFree c.path.text) {args : List String}
    (h : ∀ a ∈ args, NulFree a) {reply : Reply} (hreply : git past (c.command args) = .ok reply)
    (failure : String) : (git.within c failure args past).result = .ok reply := by
  have hanswer : (git past).answer (c.command args) = .ok reply := by
    rw [Git.answer, hasNul_command hpath h, hreply]
    rfl
  change ((git past).answer (c.command args)).mapError _ = _
  rw [hanswer]
  rfl

variable {s : Store} (hpath : NulFree c.path.text) (hgit : FaithfulTo s c git)
include hpath hgit

theorem result_fetch : ((git.access c).fetch past).result = s.fetch := by
  change ((git.within c).fetchFrom remoteName past).result = _
  unfold Runner.fetchFrom
  rw [Conversation.result_bind_of_ok rfl]
  generalize past ++ _ = now
  obtain ⟨reply, hreply, hfetch⟩ := hgit.fetch now
  rw [Conversation.result_bind_of_ok (result_within hpath (by decide) hreply _),
    Conversation.result_ofExcept_bind]
  unfold Store.fetch requireSuccess
  split at hfetch
  · next hfailing =>
    rw [if_neg (by simp [hfetch.1]), hfetch.2, if_pos hfailing]
    rfl
  · next hfailing =>
    rw [if_pos hfetch, if_neg hfailing]
    rfl

theorem result_hasBranch {branch : String} (hb : NulFree branch) :
    ((git.within c).hasBranch branch past).result = .ok (s.remoteBranches.contains branch) := by
  obtain ⟨reply, hreply, hknown⟩ := hgit.hasBranch past branch
  have hargs : ∀ a ∈ hasBranchArgs branch, NulFree a := by
    have hwords : ∀ a ∈ ["show-ref", "--verify", "--quiet"], NulFree a := by decide
    refine List.forall_mem_append.mpr ⟨hwords, ?_⟩
    simpa using nulFree_branchRef hb
  unfold Runner.hasBranch
  rw [Conversation.result_bind_of_ok (result_within hpath hargs hreply _)]
  have hvalue : reply.isSuccess = s.remoteBranches.contains branch := by
    rw [Bool.eq_iff_iff, hknown, List.contains_iff_mem]
  rw [hvalue]
  rfl

theorem result_fetchBranch {branch : String} (hb : NulFree branch)
    (hmissing : branch ∉ s.remoteBranches) :
    ((git.within c).fetchBranch branch past).result = .error (.branchNotFound branch) := by
  obtain ⟨reply, hreply, hfailed, hwords⟩ := hgit.fetchBranch past branch hmissing
  have hargs : ∀ a ∈ fetchBranchArgs branch, NulFree a := by
    have hwords : ∀ a ∈ ["fetch", remoteName], NulFree a := by decide
    refine List.forall_mem_append.mpr ⟨hwords, ?_⟩
    simpa using nulFree_refspec hb
  unfold Runner.fetchBranch
  rw [Conversation.result_bind_of_ok (result_within hpath hargs hreply _)]
  simp [branchFetched, hfailed, hwords]
  rfl

theorem result_ensureBranch {branch : String} (hb : NulFree branch) :
    ((git.within c).ensureBranch branch past).result =
      if branch ∈ s.remoteBranches then .ok () else .error (.branchNotFound branch) := by
  unfold Runner.ensureBranch
  rw [Conversation.result_bind_of_ok (result_hasBranch hpath hgit hb)]
  by_cases hmem : branch ∈ s.remoteBranches
  · simp only [List.contains_iff_mem.mpr hmem, if_true, hmem]
    rfl
  · simp only [hmem, if_false]
    rw [if_neg (by simpa using hmem)]
    exact result_fetchBranch hpath hgit hb hmem

theorem result_ensureBranches {names : List String} (h : ∀ b ∈ names, NulFree b) :
    ((git.access c).ensureBranches names past).result = s.ensureBranches names := by
  induction names generalizing past with
  | nil => rfl
  | cons b names ih =>
    have hb : ((git.within c).ensureBranch b past).result =
        if b ∈ s.remoteBranches then .ok () else .error (.branchNotFound b) :=
      result_ensureBranch hpath hgit (h b (by simp))
    change ((git.within c).ensureBranches (b :: names) past).result = _
    unfold Runner.ensureBranches
    by_cases hmem : b ∈ s.remoteBranches
    · rw [if_pos hmem] at hb
      rw [Conversation.result_bind_of_ok hb]
      have hrest : s.ensureBranches (b :: names) = s.ensureBranches names := by
        simp [Store.ensureBranches, hmem]
      rw [hrest]
      exact ih fun x hx => h x (by simp [hx])
    · rw [if_neg hmem] at hb
      rw [Conversation.bind_apply, Traced.bind_of_error hb]
      simp [Store.ensureBranches, hmem]

theorem result_isPublished {sha : String} {branches : BranchSet} (hsha : NulFree sha)
    (h : s.commits.get? sha = some branches) :
    ((git.within c).isPublished sha past).result = .ok true := by
  obtain ⟨reply, hreply, hsuccess, hprinted⟩ := hgit.published past sha branches h
  have hargs : ∀ a ∈ publishedArgs sha, NulFree a := by
    have hbefore : ∀ a ∈ ["for-each-ref", "--count=1", "--format=%(refname)", "--contains"],
        NulFree a := by decide
    have hafter : ∀ a ∈ [remoteRefs, "refs/tags"], NulFree a := by decide
    exact List.forall_mem_append.mpr ⟨hbefore, List.forall_mem_cons.mpr ⟨hsha, hafter⟩⟩
  unfold Runner.isPublished
  rw [Conversation.result_bind_of_ok (result_within hpath hargs hreply _),
    Conversation.result_ofExcept_bind, requireSuccess, if_pos hsuccess, hprinted]
  rfl

variable (hs : Regular s)
include hs

theorem result_branchesContaining {sha : String} {branches : BranchSet} (hsha : NulFree sha)
    (h : s.commits.get? sha = some branches) :
    ((git.within c).branchesContaining sha past).result = .ok branches := by
  obtain ⟨reply, names, hreply, hsuccess, hout, hall, honly⟩ := hgit.containing past sha branches h
  have hargs : ∀ a ∈ containingArgs sha, NulFree a := by
    have hbefore : ∀ a ∈ ["for-each-ref", "--format=%(refname)", "--contains"], NulFree a := by
      decide
    have hafter : ∀ a ∈ [remoteRefs], NulFree a := by decide
    exact List.forall_mem_append.mpr ⟨hbefore, List.forall_mem_cons.mpr ⟨hsha, hafter⟩⟩
  unfold Runner.branchesContaining
  rw [Conversation.result_bind_of_ok (result_within hpath hargs hreply _),
    Conversation.result_ofExcept_bind, requireSuccess, if_pos hsuccess, hout,
    ofList_lines_eq (hs.branch _ (mem_of_get? h)) hall honly]
  rfl

theorem result_resolve {reference : String} (h : NulFree reference) :
    ((git.within c).resolve reference past).result = .ok ((s.lookUp reference).map (·.sha)) := by
  unfold Runner.resolve
  by_cases hsafe : isUnsafe reference = true
  · rw [if_pos hsafe, hs.lookUp_of_isUnsafe hsafe]
    rfl
  rw [if_neg hsafe]
  obtain ⟨reply, hreply, hresolved⟩ := hgit.resolve past reference
  have hargs : ∀ a ∈ resolveArgs reference, NulFree a := by
    have hwords : ∀ a ∈ ["rev-parse", "--verify", "--quiet"], NulFree a := by decide
    have hpeel : NulFree "^\x7bcommit\x7d" := by decide
    refine List.forall_mem_append.mpr ⟨hwords, ?_⟩
    simpa using h.append hpeel
  rw [Conversation.result_bind_of_ok (result_within hpath hargs hreply _)]
  cases hfound : s.lookUp reference with
  | none =>
    rw [hfound] at hresolved
    have hfailed : reply.isSuccess = false := by simp [Reply.isSuccess, hresolved]
    rw [hfailed]
    rfl
  | some commit =>
    rw [hfound] at hresolved
    obtain ⟨hsuccess, hout⟩ := hresolved
    have hsha := (hs.sha _ (mem_of_get? (get?_sha_of_lookUp hfound))).1
    rw [if_pos hsuccess, hout, Text.trim_append_lineFeed hsha.ne_empty hsha.noBlank]
    rfl

theorem result_lookUp {reference : String} (h : NulFree reference) :
    ((git.access c).lookUp reference past).result = .ok (s.lookUp reference) := by
  change ((git.within c).lookUp reference past).result = _
  unfold Runner.lookUp
  rw [Conversation.result_bind_of_ok (result_resolve hpath hgit hs h)]
  cases hfound : s.lookUp reference with
  | none => rfl
  | some commit =>
    have hcommit := get?_sha_of_lookUp hfound
    have hsha := (hs.sha _ (mem_of_get? hcommit)).2
    dsimp only [Option.map_some]
    rw [Conversation.result_bind_of_ok (result_isPublished hpath hgit hsha hcommit), if_pos rfl,
      Conversation.result_bind_of_ok (result_branchesContaining hpath hgit hs hsha hcommit)]
    rfl

/-- To a run over the index, the clone and the store are the same repository. -/
theorem answers_store {δ : Type} {index : ReleaseIndex} (hindex : Sendable index)
    (record : Call → δ) :
    (comparing δ).Answers index (git.access c) (s.accessor.traced record) where
  fetch _ := agree_eq_iff.mpr (result_fetch hpath hgit)
  ensureBranches _ := agree_eq_iff.mpr <| result_ensureBranches hpath hgit fun b hb => by
    obtain ⟨r, hr, rfl⟩ := List.mem_map.mp (mem_firstOccurrences.mp hb)
    exact hindex.rcName r hr
  reference p hp _ := agree_eq_iff.mpr (result_lookUp hpath hgit hs (hindex.reference p hp))
  tag _ hp _ := agree_eq_iff.mpr (result_lookUp hpath hgit hs (nulFree_tagName hindex hp))

end Commands

def resolveReply (s : Store) (spec : String) : Reply :=
  match s.references.find? fun e => e.1 ++ "^\x7bcommit\x7d" = spec with
  | none => ⟨1, "", ""⟩
  | some e =>
    match s.lookUp e.1 with
    | none => ⟨1, "", ""⟩
    | some commit => ⟨0, commit.sha ++ "\n", ""⟩

def containingReply (s : Store) (sha : String) : Reply :=
  match s.commits.get? sha with
  | none => ⟨129, "", "error: no such commit " ++ sha⟩
  | some branches => ⟨0, Text.unlines (("HEAD" :: branches.names).map branchRef), ""⟩

def reply (s : Store) : List String → Reply
  | ["fetch", "--prune", "--tags", "--force", _] =>
    if s.failingFetch then ⟨128, "", "fatal: 'origin' does not appear to be a git repository"⟩
    else ⟨0, "", ""⟩
  | ["fetch", _, spec] =>
    if s.remoteBranches.any fun b => refspec b = spec then ⟨0, "", ""⟩
    else ⟨128, "", "fatal: couldn't find remote ref"⟩
  | ["show-ref", "--verify", "--quiet", name] =>
    if s.remoteBranches.any fun b => branchRef b = name then ⟨0, "", ""⟩ else ⟨1, "", ""⟩
  | ["rev-parse", "--verify", "--quiet", spec] => resolveReply s spec
  | "for-each-ref" :: "--count=1" :: _ => ⟨0, Text.unlines [branchRef "HEAD"], ""⟩
  | ["for-each-ref", _, "--contains", sha, _] => containingReply s sha
  | _ => ⟨129, "", ""⟩

def storeGit (s : Store) : Git := fun command => .ok (reply s (subcommand command.args))

theorem branchRef_inj {a b : String} : branchRef a = branchRef b ↔ a = b := by
  simp [branchRef]

theorem refspec_inj {a b : String} (h : refspec a = refspec b) : a = b := by
  have hlists := congrArg String.toList h
  simp only [refspec, branchRef, String.toList_append, List.append_assoc] at hlists
  have htail := List.append_cancel_left hlists
  have hlength : a.toList.length = b.toList.length := by
    have := congrArg List.length htail
    simp only [List.length_append] at this
    omega
  exact String.toList_inj.mp (List.append_inj htail hlength).1

theorem resolveReply_of_name (s : Store) (reference : String) :
    resolveReply s (reference ++ "^\x7bcommit\x7d") =
      match s.lookUp reference with
      | none => ⟨1, "", ""⟩
      | some commit => ⟨0, commit.sha ++ "\n", ""⟩ := by
  have hsame : (fun e : String × String =>
      decide (e.1 ++ "^\x7bcommit\x7d" = reference ++ "^\x7bcommit\x7d")) =
        fun e => decide (e.1 = reference) := by
    funext e
    simp
  unfold resolveReply
  rw [hsame]
  cases hfind : s.references.find? fun e => decide (e.1 = reference) with
  | none =>
    have hnone : s.lookUp reference = none := by simp [Store.lookUp, Table.get?, hfind]
    rw [hnone]
  | some e =>
    have hname : e.1 = reference := by simpa using List.find?_some hfind
    rw [← hname]

/-- There is a faithful git for every store. -/
theorem faithfulTo_storeGit (s : Store) (c : Clone) : FaithfulTo s c (steady (storeGit s)) where
  fetch past := by
    refine ⟨reply s (fetchArgs remoteName), rfl, ?_⟩
    simp only [fetchArgs, reply]
    split
    · exact ⟨rfl, rfl⟩
    · rfl
  hasBranch past branch := by
    refine ⟨reply s (hasBranchArgs branch), rfl, ?_⟩
    simp only [hasBranchArgs, reply, branchRef_inj]
    split <;> simp_all [Reply.isSuccess]
  fetchBranch past branch h := by
    refine ⟨reply s (fetchBranchArgs branch), rfl, ?_⟩
    -- A refspec belongs to one branch only, so that of a missing branch is none of the known ones.
    have hnone : (s.remoteBranches.any fun b => refspec b = refspec branch) = false := by
      rw [List.any_eq_false]
      intro b hb heq
      exact h (refspec_inj (of_decide_eq_true heq) ▸ hb)
    simp only [fetchBranchArgs, reply, hnone]
    exact ⟨rfl, by decide⟩
  resolve past reference := by
    have hreply : reply s (resolveArgs reference) =
        resolveReply s (reference ++ "^\x7bcommit\x7d") := rfl
    refine ⟨reply s (resolveArgs reference), rfl, ?_⟩
    rw [hreply, resolveReply_of_name]
    cases s.lookUp reference with
    | none => rfl
    | some commit => exact ⟨rfl, rfl⟩
  published past sha branches h := by
    have hreply : reply s (publishedArgs sha) = ⟨0, Text.unlines [branchRef "HEAD"], ""⟩ := rfl
    refine ⟨reply s (publishedArgs sha), rfl, ?_⟩
    rw [hreply]
    exact ⟨rfl, by decide⟩
  containing past sha branches h := by
    have hreply : reply s (containingArgs sha) = containingReply s sha := rfl
    refine ⟨reply s (containingArgs sha), "HEAD" :: branches.names, rfl, ?_⟩
    rw [hreply, containingReply, h]
    refine ⟨rfl, rfl, fun b hb => ?_, fun b hb => ?_⟩
    · exact List.mem_cons_of_mem _ hb
    · exact (List.mem_cons.mp hb).symm

theorem couples_runChecks_store {δ : Type} {index : ReleaseIndex} (hindex : Sendable index)
    {s : Store} (hs : Regular s) {c : Clone} (hpath : NulFree c.path.text) {git : Oracle}
    (hgit : FaithfulTo s c git) (mode : Mode) (observe : CheckResult → List Effect)
    (observe' : CheckResult → List δ) (record : Call → δ) :
    (comparing δ).couples Eq (runChecks index mode observe (pure (git.access c)))
      (runChecks index mode observe' (pure (s.accessor.traced record))) := by
  refine Coupling.couples_runChecks (fun r _ => .ok rfl) mode fun _ => .ok ?_
  exact answers_store hpath hgit hs hindex record

theorem result_runChecks_repository {δ : Type} {index : ReleaseIndex} (hindex : Sendable index)
    {s : Store} (hs : Regular s) {c : Clone} (hpath : NulFree c.path.text)
    (hgit : FaithfulTo s c (steady c.git)) (mode : Mode) (observe : CheckResult → List Effect)
    (observe' : CheckResult → List δ) (record : Call → δ) :
    (runChecks index mode observe (pure c.repository)).result =
      (runChecks index mode observe' (pure (s.accessor.traced record))).result := by
  rw [runChecks_repository]
  exact agree_eq_iff.mp (couples_runChecks_store hindex hs hpath hgit mode observe observe' record [])

section Samples

def sampleStore : Store :=
  (Store.empty.withCommit "4f2e1c" ["rc--2024-05-02_09-30", "main"]).withTag
    "release-2024-05-02_09-30-base" "4f2e1c"

def sampleClone : Clone := ⟨⟨"/cache/components"⟩, [], storeGit sampleStore⟩

def sampleIndex (reference : String) : ReleaseIndex :=
  ⟨[⟨"rc--2024-05-02_09-30", ⟨⟨2024, 5, 2, 9, 30⟩, by decide⟩, [⟨"base", reference⟩]⟩]⟩

theorem regular_sampleStore : Regular sampleStore :=
  ⟨by decide +kernel, by decide +kernel, by decide +kernel⟩

theorem sendable_sampleIndex {reference : String} (h : NulFree reference) :
    Sendable (sampleIndex reference) := by
  refine ⟨?_, ?_, ?_⟩
  all_goals
    intro x hx
    rw [List.mem_singleton.mp hx]
  · exact (by decide : NulFree "rc--2024-05-02_09-30")
  · exact (by decide : NulFree "base")
  · exact h

/-- A run over a clone whose git answers from a store comes to the same results as one over the
store itself, or fails in the same way. -/
theorem runChecks_clone_eq_store {δ : Type} {index : ReleaseIndex} (hindex : Sendable index)
    {s : Store} (hs : Regular s) {c : Clone} (hpath : NulFree c.path.text) {git : Oracle}
    (hgit : FaithfulTo s c git) (mode : Mode) (observe : CheckResult → List Effect)
    (observe' : CheckResult → List δ) (record : Call → δ) (past : List (Execution ⊕ Effect)) :
    (runChecks index mode observe (pure (git.access c)) past).result =
      (runChecks index mode observe' (pure (s.accessor.traced record))).result :=
  agree_eq_iff.mp (couples_runChecks_store hindex hs hpath hgit mode observe observe' record past)

theorem runChecks_clone_eq_store_sample :
    (runChecks (sampleIndex "4f2e1c") .batch (fun _ => [])
        (pure ((steady (storeGit sampleStore)).access sampleClone)) []).result =
      (runChecks (sampleIndex "4f2e1c") .batch (fun _ => [])
        (pure (sampleStore.accessor.traced id))).result :=
  runChecks_clone_eq_store (sendable_sampleIndex (by decide)) regular_sampleStore (by decide)
    (faithfulTo_storeGit sampleStore sampleClone) .batch (fun _ => []) (fun _ => []) id []

/-- A reference with a NUL in it names nothing in the store, but there is no way to ask git for it. -/
theorem nul_reference_differs :
    (∀ r ∈ (sampleIndex "a\x00b").releases, r.Dated) ∧ Regular sampleStore ∧
    FaithfulTo sampleStore sampleClone (steady (storeGit sampleStore)) ∧
    (runChecks (sampleIndex "a\x00b") .batch (fun _ => [])
        (pure ((steady (storeGit sampleStore)).access sampleClone)) []).result ≠
      (runChecks (sampleIndex "a\x00b") .batch (fun _ => [])
        (pure (sampleStore.accessor.traced id))).result := by
  refine ⟨fun r hr => ?_, regular_sampleStore, faithfulTo_storeGit _ _, fun h => ?_⟩
  · rw [List.mem_singleton.mp hr]
    rfl
  · have hclone : (runChecks (sampleIndex "a\x00b") .batch (fun _ => [])
        (pure ((steady (storeGit sampleStore)).access sampleClone)) []).result =
        .error (.message "I/O error: nul byte found in provided data"
          ["Failed to run git rev-parse"] none) := rfl
    rw [hclone] at h
    cases h

end Samples

end Faithful
end ReleaseAudit

import ReleaseAudit.Git.Script
import ReleaseAudit.Proofs.Steering

/-! How a clone answers: the commands that it issues one after the other, what git makes of each,
and how that decides the outcome. -/
namespace ReleaseAudit
namespace Course

open Git
open Steering (Past)

variable {α : Type}

def outcome (git : Oracle) (c : Clone) (past : Past) (args : List String) : Except Fault Reply :=
  (git past).answer (c.command args)

def ran (c : Clone) (args : List String) (outcome : Except Fault Reply) : Execution ⊕ Effect :=
  .inl ⟨c.command args, outcome⟩

section Commands

variable {git : Oracle} {c : Clone} {past : Past} {args : List String} {r : Reply} {fault : Fault}

theorem within_apply (failure : String) : git.within c failure args past =
    ⟨[ran c args (outcome git c past args)],
      (outcome git c past args).mapError (Fault.context failure)⟩ := rfl

theorem within_bind_of_error (h : outcome git c past args = .error fault) (failure : String)
    (f : Reply → Conversation Execution Effect α) : (git.within c failure args >>= f) past =
      ⟨[ran c args (.error fault)], .error (fault.context failure)⟩ := by
  refine Conversation.bind_of_error ?_ f
  rw [within_apply, h]
  rfl

theorem within_bind_of_ok (h : outcome git c past args = .ok r) (failure : String)
    (f : Reply → Conversation Execution Effect α) : (git.within c failure args >>= f) past =
      ⟨ran c args (.ok r) :: (f r (past ++ [ran c args (.ok r)])).log,
        (f r (past ++ [ran c args (.ok r)])).result⟩ := by
  have hrun : git.within c failure args past = ⟨[ran c args (.ok r)], .ok r⟩ := by
    rw [within_apply, h]
    rfl
  exact Conversation.bind_of_ok hrun f

theorem judged_of_ok (h : outcome git c past args = .ok r) (failure : String)
    (judge : Reply → Except Fault α) :
    (git.within c failure args >>= fun reply => Tracing.ofExcept (judge reply)) past =
      ⟨[ran c args (.ok r)], judge r⟩ := by
  rw [within_bind_of_ok h, Conversation.ofExcept_apply]
  rfl

theorem isSuccess_of_eq (h : r.status = 0) : r.isSuccess = true := decide_eq_true h

theorem isSuccess_of_ne (h : r.status ≠ 0) : r.isSuccess = false := decide_eq_false h

theorem requireSuccess_of_success (h : r.status = 0) (command : String) :
    requireSuccess command r = .ok () := if_pos (isSuccess_of_eq h)

theorem requireSuccess_of_failure (h : r.status ≠ 0) (command : String) :
    requireSuccess command r = .error (.gitCommandFailed command r.err) :=
  if_neg (by simp [isSuccess_of_ne h])

theorem checked_of_success (h : outcome git c past args = .ok r) (hr : r.status = 0)
    (failure command : String) (read : Reply → α) :
    (git.within c failure args >>= fun reply =>
      Tracing.ofExcept (requireSuccess command reply) >>= fun _ => pure (read reply)) past =
      ⟨[ran c args (.ok r)], .ok (read r)⟩ := by
  rw [within_bind_of_ok h]
  simp only [requireSuccess_of_success hr]
  rfl

theorem checked_of_failure (h : outcome git c past args = .ok r) (hr : r.status ≠ 0)
    (failure command : String) (read : Reply → α) :
    (git.within c failure args >>= fun reply =>
      Tracing.ofExcept (requireSuccess command reply) >>= fun _ => pure (read reply)) past =
      ⟨[ran c args (.ok r)], .error (.gitCommandFailed command r.err)⟩ := by
  rw [within_bind_of_ok h]
  simp only [requireSuccess_of_failure hr]
  rfl

end Commands

/-- A line that tells of a branch of the remote. -/
structure Tells (line branch : String) : Prop where
  trim_eq : Text.trim line = "refs/remotes/origin/" ++ branch
  ne_empty : branch ≠ ""
  ne_head : branch ≠ "HEAD"

theorem branchOf?_eq_some_iff {line branch : String} :
    branchOf? line = some branch ↔ Tells line branch := by
  have hlead : "refs/remotes/" ++ remoteName ++ "/" = "refs/remotes/origin/" := by decide
  unfold branchOf?
  rw [hlead]
  dsimp only
  constructor
  · intro h
    split at h
    · next hprefix =>
      obtain ⟨rest, hrest⟩ := List.isPrefixOf_iff_prefix.mp hprefix
      rw [← hrest, List.drop_left] at h
      split at h
      · cases h
      · next hkept =>
        cases h
        obtain ⟨hempty, hhead⟩ := not_or.mp
          (by simpa only [Bool.or_eq_true, decide_eq_true_eq] using hkept)
        refine ⟨String.toList_inj.mp ?_, hempty, hhead⟩
        simp only [← hrest, String.toList_append, String.toList_ofList]
    · cases h
  · rintro ⟨htrim, hempty, hhead⟩
    rw [htrim, String.toList_append, if_pos (by simp), List.drop_left, String.ofList_toList]
    simp [hempty, hhead]

def told (out : String) : BranchSet := .ofList ((Text.lines out).filterMap branchOf?)

theorem mem_told_iff {out branch : String} :
    branch ∈ (told out).names ↔ ∃ line ∈ Text.lines out, Tells line branch := by
  simp only [told, BranchSet.mem_ofList, List.mem_filterMap, branchOf?_eq_some_iff]

section LookUp

variable (git : Oracle) (c : Clone) (reference : String) (past : Past)

structure Resolves (r : Reply) : Prop where
  safe : isUnsafe reference = false
  outcome_eq : outcome git c past (resolveArgs reference) = .ok r
  status_eq : r.status = 0

def resolving (r : Reply) : Past := [ran c (resolveArgs reference) (.ok r)]

def publishing (r r' : Reply) : Past :=
  [ran c (resolveArgs reference) (.ok r), ran c (publishedArgs (Text.trim r.out)) (.ok r')]

/-- Git has told something that has the sha. -/
structure Publishes (r r' : Reply) : Prop where
  resolves : Resolves git c reference past r
  outcome_eq : outcome git c (past ++ resolving c reference r)
    (publishedArgs (Text.trim r.out)) = .ok r'
  status_eq : r'.status = 0
  notBlank : Text.isAllBlank r'.out = false

/-- Whose turn it is after a part of the call, and what is said of a command that cannot be
started. -/
inductive Turn : Past → String → List String → Prop
  | resolve (h : isUnsafe reference = false) :
    Turn [] "Failed to run git rev-parse" (resolveArgs reference)
  | published {r : Reply} (h : Resolves git c reference past r) :
    Turn (resolving c reference r) "Failed to check whether commit is published"
      (publishedArgs (Text.trim r.out))
  | containing {r r' : Reply} (h : Publishes git c reference past r r') :
    Turn (publishing c reference r r') "Failed to list branches containing commit"
      (containingArgs (Text.trim r.out))

/-- How a reference is looked up: the commands in turn, with what comes of them, and the outcome. -/
inductive LookUp : Past → Except Fault (Option Commit) → Prop
  | unasked (h : reference = "" ∨ reference.toList.head? = some '-') : LookUp [] (.ok none)
  | unstarted {before : Past} {failure : String} {args : List String} {fault : Fault}
    (h : Turn git c reference past before failure args)
    (hfault : outcome git c (past ++ before) args = .error fault) :
    LookUp (before ++ [ran c args (.error fault)]) (.error (fault.context failure))
  | unresolved {r : Reply} (hsafe : isUnsafe reference = false)
    (h : outcome git c past (resolveArgs reference) = .ok r) (hfailed : r.status ≠ 0) :
    LookUp (resolving c reference r) (.ok none)
  | failed {before : Past} {failure : String} {args : List String} {r : Reply}
    (h : Turn git c reference past before failure args) (hbefore : before ≠ [])
    (hr : outcome git c (past ++ before) args = .ok r) (hfailed : r.status ≠ 0) :
    LookUp (before ++ [ran c args (.ok r)])
      (.error (.gitCommandFailed "git for-each-ref --contains" r.err))
  | unpublished {r r' : Reply} (h : Resolves git c reference past r)
    (h' : outcome git c (past ++ resolving c reference r) (publishedArgs (Text.trim r.out)) =
      .ok r') (hsuccess : r'.status = 0) (hblank : Text.isAllBlank r'.out = true) :
    LookUp (publishing c reference r r') (.ok none)
  | found {r r' r'' : Reply} {commit : Commit} (h : Publishes git c reference past r r')
    (h' : outcome git c (past ++ publishing c reference r r') (containingArgs (Text.trim r.out)) =
      .ok r'') (hsuccess : r''.status = 0) (hsha : commit.sha = Text.trim r.out)
    (hbranches : ∀ b, b ∈ commit.branches.names ↔ ∃ line ∈ Text.lines r''.out, Tells line b) :
    LookUp (publishing c reference r r' ++ [ran c (containingArgs (Text.trim r.out)) (.ok r'')])
      (.ok (some commit))

end LookUp

section Steps

variable {git : Oracle} {c : Clone} {reference : String} {past : Past}

theorem isUnsafe_iff : isUnsafe reference = true ↔
    reference = "" ∨ reference.toList.head? = some '-' := by
  simp [isUnsafe]

theorem lookUp_of_isUnsafe (h : isUnsafe reference = true) :
    (git.within c).lookUp reference past = ⟨[], .ok none⟩ := by
  unfold Runner.lookUp Runner.resolve
  rw [if_pos h]
  rfl

theorem resolve_of_ok {r : Reply} (hsafe : isUnsafe reference = false)
    (h : outcome git c past (resolveArgs reference) = .ok r) :
    (git.within c).resolve reference past = ⟨resolving c reference r,
      .ok (if r.isSuccess then some (Text.trim r.out) else none)⟩ := by
  unfold Runner.resolve
  rw [if_neg (by simp [hsafe])]
  exact within_bind_of_ok h _ _

theorem lookUp_of_unresolved {r : Reply} (hsafe : isUnsafe reference = false)
    (h : outcome git c past (resolveArgs reference) = .ok r) (hr : r.status ≠ 0) :
    (git.within c).lookUp reference past = ⟨resolving c reference r, .ok none⟩ := by
  have hresolve := resolve_of_ok hsafe h
  rw [isSuccess_of_ne hr] at hresolve
  exact Conversation.bind_of_ok hresolve _

def inquire (run : Runner (Conversation Execution Effect)) (sha : String) :
    Conversation Execution Effect (Option Commit) := do
  if ← run.isPublished sha then return some ⟨sha, ← run.branchesContaining sha⟩ else return none

/-- Once git has printed a sha, the rest of the call is about the sha. -/
theorem lookUp_of_resolves {r : Reply} (h : Resolves git c reference past r) :
    let rest := inquire (git.within c) (Text.trim r.out) (past ++ resolving c reference r)
    (git.within c).lookUp reference past =
      ⟨resolving c reference r ++ rest.log, rest.result⟩ := by
  intro rest
  have hresolve := resolve_of_ok h.safe h.outcome_eq
  rw [isSuccess_of_eq h.status_eq] at hresolve
  exact Conversation.bind_of_ok hresolve _

theorem lookUp_of_publishes {r r' : Reply} (h : Publishes git c reference past r r') :
    let rest := (git.within c).branchesContaining (Text.trim r.out)
      (past ++ publishing c reference r r')
    (git.within c).lookUp reference past = ⟨publishing c reference r r' ++ rest.log,
      rest.result.map fun branches => some ⟨Text.trim r.out, branches⟩⟩ := by
  intro rest
  have hpublished : (git.within c).isPublished (Text.trim r.out) (past ++ resolving c reference r) =
      ⟨[ran c (publishedArgs (Text.trim r.out)) (.ok r')], .ok (!Text.isAllBlank r'.out)⟩ :=
    checked_of_success h.outcome_eq h.status_eq _ _ _
  rw [lookUp_of_resolves h.resolves]
  unfold inquire
  rw [Conversation.bind_of_ok hpublished, h.notBlank, List.append_assoc]
  simp only [Bool.not_false, if_true]
  rw [Conversation.bind_pure_apply]
  rfl

/-- Each course is what the call does. -/
theorem LookUp.lookUp_eq {log : Past} {result : Except Fault (Option Commit)}
    (h : LookUp git c reference past log result) :
    (git.within c).lookUp reference past = ⟨log, result⟩ := by
  cases h with
  | unasked h => exact lookUp_of_isUnsafe (isUnsafe_iff.mpr h)
  | unresolved hsafe h hfailed => exact lookUp_of_unresolved hsafe h hfailed
  | @unstarted before failure args fault h hfault =>
    cases h with
    | resolve hsafe =>
      rw [List.append_nil] at hfault
      have hresolve : (git.within c).resolve reference past =
          ⟨[ran c (resolveArgs reference) (.error fault)],
            .error (fault.context "Failed to run git rev-parse")⟩ := by
        unfold Runner.resolve
        rw [if_neg (by simp [hsafe])]
        exact within_bind_of_error hfault _ _
      exact Conversation.bind_of_error hresolve _
    | published h =>
      have hpublished : (git.within c).isPublished _ _ = _ := within_bind_of_error hfault _ _
      rw [lookUp_of_resolves h]
      unfold inquire
      rw [Conversation.bind_of_error hpublished]
    | containing h =>
      have hcontaining : (git.within c).branchesContaining _ _ = _ :=
        within_bind_of_error hfault _ _
      rw [lookUp_of_publishes h, hcontaining]
      rfl
  | @failed before failure args r h hbefore hr hfailed =>
    cases h with
    -- A first command that exits with an error only means that there is no such commit.
    | resolve => exact absurd rfl hbefore
    | published h =>
      have hpublished : (git.within c).isPublished _ _ = _ := checked_of_failure hr hfailed _ _ _
      rw [lookUp_of_resolves h]
      unfold inquire
      rw [Conversation.bind_of_error hpublished]
    | containing h =>
      have hcontaining : (git.within c).branchesContaining _ _ = _ :=
        checked_of_failure hr hfailed _ _ _
      rw [lookUp_of_publishes h, hcontaining]
      rfl
  | @unpublished r r' h h' hsuccess hblank =>
    have hpublished : (git.within c).isPublished _ _ = _ := checked_of_success h' hsuccess _ _ _
    rw [lookUp_of_resolves h]
    unfold inquire
    rw [Conversation.bind_of_ok hpublished, hblank]
    rfl
  | @found r r' r'' commit h h' hsuccess hsha hbranches =>
    have hcontaining : (git.within c).branchesContaining _ _ = _ :=
      checked_of_success h' hsuccess _ _ _
    rw [lookUp_of_publishes h, hcontaining]
    obtain ⟨sha, branches⟩ := commit
    obtain rfl : sha = Text.trim r.out := hsha
    -- A set of branches is known by its elements, so it is the one that the lines tell of.
    obtain rfl : told r''.out = branches :=
      BranchSet.eq_of_mem_iff fun b => mem_told_iff.trans (hbranches b).symm
    rfl

theorem exists_lookUp (git : Oracle) (c : Clone) (reference : String) (past : Past) :
    ∃ log result, LookUp git c reference past log result := by
  cases hsafe : isUnsafe reference with
  | true => exact ⟨_, _, .unasked (isUnsafe_iff.mp hsafe)⟩
  | false =>
  cases h : outcome git c past (resolveArgs reference) with
  | error fault =>
    exact ⟨_, _, .unstarted (.resolve hsafe) (by rwa [List.append_nil])⟩
  | ok r =>
  by_cases hr : r.status = 0
  case neg => exact ⟨_, _, .unresolved hsafe h hr⟩
  have hresolves : Resolves git c reference past r := ⟨hsafe, h, hr⟩
  cases h' : outcome git c (past ++ resolving c reference r) (publishedArgs (Text.trim r.out)) with
  | error fault => exact ⟨_, _, .unstarted (.published hresolves) h'⟩
  | ok r' =>
  by_cases hr' : r'.status = 0
  case neg => exact ⟨_, _, .failed (.published hresolves) (List.cons_ne_nil _ _) h' hr'⟩
  cases hblank : Text.isAllBlank r'.out with
  | true => exact ⟨_, _, .unpublished hresolves h' hr' hblank⟩
  | false =>
  have hpublishes : Publishes git c reference past r r' := ⟨hresolves, h', hr', hblank⟩
  cases h'' : outcome git c (past ++ publishing c reference r r')
      (containingArgs (Text.trim r.out)) with
  | error fault => exact ⟨_, _, .unstarted (.containing hpublishes) h''⟩
  | ok r'' =>
  by_cases hr'' : r''.status = 0
  case neg => exact ⟨_, _, .failed (.containing hpublishes) (List.cons_ne_nil _ _) h'' hr''⟩
  exact ⟨_, .ok (some ⟨Text.trim r.out, told r''.out⟩),
    .found hpublishes h'' hr'' rfl fun b => mem_told_iff⟩

/-- The call takes a course exactly if it does what the course says. -/
theorem lookUp_eq_iff {log : Past} {result : Except Fault (Option Commit)} :
    (git.within c).lookUp reference past = ⟨log, result⟩ ↔
      LookUp git c reference past log result := by
  constructor
  · intro h
    obtain ⟨log', result', hcourse⟩ := exists_lookUp git c reference past
    obtain ⟨rfl, rfl⟩ := Traced.mk.inj (h.symm.trans hcourse.lookUp_eq)
    exact hcourse
  · exact LookUp.lookUp_eq

end Steps

/-- Git prints `out` when it is asked for the branches of the sha behind a reference. -/
def Lists (git : Oracle) (c : Clone) (reference : String) (past : Past) (sha out : String) : Prop :=
  ∃ r r' r'', Publishes git c reference past r r' ∧
    outcome git c (past ++ publishing c reference r r') (containingArgs (Text.trim r.out)) =
      .ok r'' ∧ r''.status = 0 ∧ Text.trim r.out = sha ∧ r''.out = out

/-- A line that counts: it is about a branch of the remote, and not about its main pointer. -/
structure Counts (line : String) : Prop where
  lead : "refs/remotes/origin/".toList <+: (Text.trim line).toList
  ne_lead : Text.trim line ≠ "refs/remotes/origin/"
  ne_head : Text.trim line ≠ "refs/remotes/origin/HEAD"

instance : DecidablePred Counts := fun line =>
  decidable_of_iff ("refs/remotes/origin/".toList <+: (Text.trim line).toList ∧
      Text.trim line ≠ "refs/remotes/origin/" ∧ Text.trim line ≠ "refs/remotes/origin/HEAD")
    ⟨fun h => ⟨h.1, h.2.1, h.2.2⟩, fun h => ⟨h.lead, h.ne_lead, h.ne_head⟩⟩

theorem Tells.counts {line branch : String} (h : Tells line branch) : Counts line := by
  obtain ⟨htrim, hempty, hhead⟩ := h
  have hpointer : "refs/remotes/origin/HEAD" = "refs/remotes/origin/" ++ "HEAD" := by decide
  refine ⟨?_, ?_, ?_⟩
  · rw [htrim, String.toList_append]
    exact List.prefix_append _ _
  · simpa [htrim] using hempty
  · rw [htrim, hpointer]
    exact fun h => hhead (String.append_right_inj _ |>.mp h)

theorem told_eq_of_counts {out out' : String}
    (h : ∀ line, Counts line → (line ∈ Text.lines out ↔ line ∈ Text.lines out')) :
    told out = told out' := by
  refine BranchSet.eq_of_mem_iff fun b => ?_
  rw [mem_told_iff, mem_told_iff]
  exact exists_congr fun line => and_congr_left fun htells => h line htells.counts

theorem Lists.result_lookUp {git : Oracle} {c : Clone} {reference : String} {past : Past}
    {sha out : String} (h : Lists git c reference past sha out) :
    ((git.within c).lookUp reference past).result = .ok (some ⟨sha, told out⟩) := by
  obtain ⟨r, r', r'', hpublishes, houtcome, hsuccess, rfl, rfl⟩ := h
  have hfound : LookUp git c reference past _ (.ok (some ⟨Text.trim r.out, told r''.out⟩)) :=
    .found hpublishes houtcome hsuccess rfl fun b => mem_told_iff
  rw [hfound.lookUp_eq]

/-- To look up a reference is to take exactly one of the courses. The commit that is found is the
same wherever the same lines count, whatever other lines there are, in whatever order. -/
theorem lookUp_exact (git : Oracle) (c : Clone) (reference : String) (past : Past) :
    (∀ log result, (git.access c).lookUp reference past = ⟨log, result⟩ ↔
      LookUp git c reference past log result) ∧
    ∀ (git' : Oracle) (past' : Past) (sha out out' : String),
      Lists git c reference past sha out → Lists git' c reference past' sha out' →
      (∀ line, Counts line → (line ∈ Text.lines out ↔ line ∈ Text.lines out')) →
      ((git.access c).lookUp reference past).result =
        ((git'.access c).lookUp reference past').result := by
  refine ⟨fun log result => lookUp_eq_iff, fun git' past' sha out out' hout hout' hcounts => ?_⟩
  calc ((git.within c).lookUp reference past).result
      = .ok (some ⟨sha, told out⟩) := hout.result_lookUp
    _ = .ok (some ⟨sha, told out'⟩) := by rw [told_eq_of_counts hcounts]
    _ = ((git'.within c).lookUp reference past').result := hout'.result_lookUp.symm

section Samples

def sampleClone : Clone := ⟨⟨"/cache"⟩, [], fun _ => .error .notFound⟩

def listing (out : String) : Git := fun command =>
  .ok <| match subcommand command.args with
    | "rev-parse" :: _ => ⟨0, "4f2e1c\n", ""⟩
    | "for-each-ref" :: "--count=1" :: _ => ⟨0, "refs/tags/v1\n", ""⟩
    | _ => ⟨0, out, ""⟩

theorem lists_listing (out : String) :
    Lists (steady (listing out)) sampleClone "main" [] "4f2e1c" out :=
  ⟨⟨0, "4f2e1c\n", ""⟩, ⟨0, "refs/tags/v1\n", ""⟩, ⟨0, out, ""⟩,
    ⟨⟨by decide, rfl, rfl⟩, rfl, rfl, by decide⟩, rfl, rfl, by decide, rfl⟩

def plainLines : List String := ["refs/remotes/origin/edge", "refs/remotes/origin/main"]

/-- The same branches, in another order, one of them twice, among lines that do not count. -/
def noisyLines : List String :=
  ["refs/heads/main", "refs/remotes/origin/main", "refs/remotes/origin/HEAD", "refs/tags/v1",
    "refs/remotes/originals/old", "refs/remotes/origin/edge", "refs/remotes/origin/main"]

theorem lookUp_exact_sample :
    (((steady (listing (Text.unlines plainLines))).access sampleClone).lookUp "main" []).result =
      (((steady (listing (Text.unlines noisyLines))).access sampleClone).lookUp
        "main" []).result := by
  have hplain : Text.lines (Text.unlines plainLines) = plainLines ++ [""] :=
    Text.lines_unlines (by decide)
  have hnoisy : Text.lines (Text.unlines noisyLines) = noisyLines ++ [""] :=
    Text.lines_unlines (by decide)
  have hforth : ∀ line ∈ plainLines ++ [""], Counts line → line ∈ noisyLines ++ [""] := by
    decide +kernel
  have hback : ∀ line ∈ noisyLines ++ [""], Counts line → line ∈ plainLines ++ [""] := by
    decide +kernel
  refine (lookUp_exact _ _ _ _).2 _ _ _ _ _ (lists_listing _) (lists_listing _) ?_
  intro line hcounts
  rw [hplain, hnoisy]
  exact ⟨fun h => hforth line h hcounts, fun h => hback line h hcounts⟩

/-- A git that refuses everything, and says nothing. -/
def silentGit : Git := fun _ => .ok ⟨1, "", ""⟩

/-- A reference with a NUL in it: git is never asked for it, and the call neither comes to an answer
nor tells of a command that failed. -/
theorem nul_reference_unasked :
    let talk := ((steady silentGit).access sampleClone).lookUp "a\x00b" []
    ("a\x00b" ≠ "" ∧ "a\x00b".toList.head? ≠ some '-') ∧ talk.log.flatMap seen = [] ∧
      (∀ found, talk.result ≠ .ok found) ∧
      ∀ command err, talk.result ≠ .error (.gitCommandFailed command err) := by
  intro talk
  have htalk : talk.result = .error (.message "I/O error: nul byte found in provided data"
      ["Failed to run git rev-parse"] none) := rfl
  rw [htalk]
  exact ⟨by decide, rfl, fun _ => nofun, fun _ _ => nofun⟩

end Samples

section Branches

variable (git : Oracle) (c : Clone)

/-- How a branch is made visible: git is asked for it, and told to fetch it unless it says that the
branch is there. -/
inductive Ensure (b : String) (past : Past) : Past → Except Fault Unit → Prop
  | unstarted {fault : Fault} (h : outcome git c past (hasBranchArgs b) = .error fault) :
    Ensure b past [ran c (hasBranchArgs b) (.error fault)]
      (.error (fault.context "Failed to run git show-ref"))
  | known {r : Reply} (h : outcome git c past (hasBranchArgs b) = .ok r) (hknown : r.status = 0) :
    Ensure b past [ran c (hasBranchArgs b) (.ok r)] (.ok ())
  | unstartedFetch {r : Reply} {fault : Fault} (h : outcome git c past (hasBranchArgs b) = .ok r)
    (hunknown : r.status ≠ 0)
    (h' : outcome git c (past ++ [ran c (hasBranchArgs b) (.ok r)]) (fetchBranchArgs b) =
      .error fault) :
    Ensure b past [ran c (hasBranchArgs b) (.ok r), ran c (fetchBranchArgs b) (.error fault)]
      (.error (fault.context "Failed to fetch branch"))
  | fetched {r r' : Reply} (h : outcome git c past (hasBranchArgs b) = .ok r)
    (hunknown : r.status ≠ 0)
    (h' : outcome git c (past ++ [ran c (hasBranchArgs b) (.ok r)]) (fetchBranchArgs b) = .ok r') :
    Ensure b past [ran c (hasBranchArgs b) (.ok r), ran c (fetchBranchArgs b) (.ok r')]
      (branchFetched b r')

/-- How branches are made visible: one after the other, until one of them cannot be. -/
inductive Sync : List String → Past → Past → Except Fault Unit → Prop
  | done {past : Past} : Sync [] past [] (.ok ())
  | stopped {b : String} {bs : List String} {past log : Past} {fault : Fault}
    (h : Ensure git c b past log (.error fault)) : Sync (b :: bs) past log (.error fault)
  | next {b : String} {bs : List String} {past log more : Past} {result : Except Fault Unit}
    (h : Ensure git c b past log (.ok ())) (rest : Sync bs (past ++ log) more result) :
    Sync (b :: bs) past (log ++ more) result

end Branches

section Syncs

theorem hasBranch_of_ok {git : Oracle} {c : Clone} {b : String} {past : Past} {r : Reply}
    (h : outcome git c past (hasBranchArgs b) = .ok r) : (git.within c).hasBranch b past =
      ⟨[ran c (hasBranchArgs b) (.ok r)], .ok r.isSuccess⟩ := within_bind_of_ok h _ _

theorem ensureBranch_of_unknown {git : Oracle} {c : Clone} {b : String} {past log : Past}
    {r : Reply} {result : Except Fault Unit} (h : outcome git c past (hasBranchArgs b) = .ok r)
    (hunknown : r.status ≠ 0)
    (hfetch : (git.within c).fetchBranch b (past ++ [ran c (hasBranchArgs b) (.ok r)]) =
      ⟨log, result⟩) :
    (git.within c).ensureBranch b past = ⟨ran c (hasBranchArgs b) (.ok r) :: log, result⟩ := by
  unfold Runner.ensureBranch
  rw [Conversation.bind_of_ok (hasBranch_of_ok h), isSuccess_of_ne hunknown]
  simp only [Bool.false_eq_true, if_false, hfetch]
  rfl

theorem Ensure.ensureBranch_eq {git : Oracle} {c : Clone} {b : String} {past log : Past}
    {result : Except Fault Unit} (h : Ensure git c b past log result) :
    (git.within c).ensureBranch b past = ⟨log, result⟩ := by
  cases h with
  | unstarted h =>
    have hasked : (git.within c).hasBranch b past = _ := within_bind_of_error h _ _
    exact Conversation.bind_of_error hasked _
  | known h hknown =>
    have hasked := hasBranch_of_ok h
    rw [isSuccess_of_eq hknown] at hasked
    exact Conversation.bind_of_ok hasked _
  | unstartedFetch h hunknown h' =>
    exact ensureBranch_of_unknown h hunknown (within_bind_of_error h' _ _)
  | fetched h hunknown h' => exact ensureBranch_of_unknown h hunknown (judged_of_ok h' _ _)

variable (git : Oracle) (c : Clone)

theorem exists_ensure (b : String) (past : Past) :
    ∃ log result, Ensure git c b past log result := by
  cases h : outcome git c past (hasBranchArgs b) with
  | error fault => exact ⟨_, _, .unstarted h⟩
  | ok r =>
  by_cases hr : r.status = 0
  case pos => exact ⟨_, _, .known h hr⟩
  cases h' : outcome git c (past ++ [ran c (hasBranchArgs b) (.ok r)]) (fetchBranchArgs b) with
  | error fault => exact ⟨_, _, .unstartedFetch h hr h'⟩
  | ok r' => exact ⟨_, _, .fetched h hr h'⟩

theorem ensure_ensureBranch (b : String) (past : Past) :
    Ensure git c b past ((git.within c).ensureBranch b past).log
      ((git.within c).ensureBranch b past).result := by
  obtain ⟨log, result, hcourse⟩ := exists_ensure git c b past
  rw [hcourse.ensureBranch_eq]
  exact hcourse

theorem sync_ensureBranches (names : List String) (past : Past) :
    Sync git c names past ((git.within c).ensureBranches names past).log
      ((git.within c).ensureBranches names past).result := by
  induction names generalizing past with
  | nil => exact .done
  | cons b names ih =>
    have hensure := ensure_ensureBranch git c b past
    unfold Runner.ensureBranches
    rw [Conversation.bind_apply]
    generalize (git.within c).ensureBranch b past = talk at hensure ⊢
    obtain ⟨log, result⟩ := talk
    cases result with
    | error fault =>
      rw [Traced.bind_of_error rfl]
      exact .stopped hensure
    | ok _ =>
      rw [Traced.bind_of_ok rfl]
      exact .next hensure (ih _)

end Syncs

end Course
end ReleaseAudit

import ReleaseAudit.Proofs.Course

/-! Branches made visible one after the other. Each is asked for once, and fetched once if git does
not say that it is there. The first that cannot be had ends the call, and the fault is about it. -/
namespace ReleaseAudit
namespace Branches

open Git Course
open Steering (Past)

/-! The two commands for a branch. -/

def askArgs (b : String) : List String :=
  ["show-ref", "--verify", "--quiet", "refs/remotes/origin/" ++ b]

def mapping (b : String) : String := "+refs/heads/" ++ b ++ ":refs/remotes/origin/" ++ b

def getArgs (b : String) : List String := ["fetch", "origin", mapping b]

theorem branchRef_eq (b : String) : branchRef b = "refs/remotes/origin/" ++ b := by
  have hlead : "refs/remotes/" ++ remoteName ++ "/" = "refs/remotes/origin/" := by decide
  rw [branchRef, remoteRefs, hlead]

theorem refspec_eq (b : String) : refspec b = mapping b := Steering.refspec_eq b

theorem hasBranchArgs_eq (b : String) : hasBranchArgs b = askArgs b := by
  rw [hasBranchArgs, branchRef_eq, askArgs]

theorem fetchBranchArgs_eq (b : String) : fetchBranchArgs b = getArgs b := by
  rw [fetchBranchArgs, refspec_eq, remoteName, getArgs]

def Mentions (text phrase : String) : Prop := ∃ before after, text = before ++ phrase ++ after

theorem contains_iff {text phrase : String} :
    Text.contains text phrase = true ↔ Mentions text phrase := by
  rw [Text.contains, Text.occursIn_iff]
  constructor
  · rintro ⟨before, after, h⟩
    refine ⟨.ofList before, .ofList after, String.toList_inj.mp ?_⟩
    simpa [String.toList_append] using h
  · rintro ⟨before, after, rfl⟩
    exact ⟨before.toList, after.toList, by simp [String.toList_append]⟩

section

variable (git : Oracle) (c : Clone)

/-- Git has been asked for a branch, and has not said that it is there. -/
structure Unknown (b : String) (past : Past) (r : Reply) : Prop where
  outcome_eq : outcome git c past (askArgs b) = .ok r
  status_ne : r.status ≠ 0

/-- Git has been told to fetch a branch that it did not know. -/
structure Fetched (b : String) (past : Past) (r r' : Reply) : Prop where
  unknown : Unknown git c b past r
  outcome_eq : outcome git c (past ++ [ran c (askArgs b) (.ok r)]) (getArgs b) = .ok r'

def fetching (b : String) (r : Reply) (outcome : Except Fault Reply) : Past :=
  [ran c (askArgs b) (.ok r), ran c (getArgs b) outcome]

/-- How a branch is made visible: git says that it is there, or fetches it. -/
inductive Served (b : String) (past : Past) : Past → Prop
  | known {r : Reply} (h : outcome git c past (askArgs b) = .ok r) (hknown : r.status = 0) :
    Served b past [ran c (askArgs b) (.ok r)]
  | fetched {r r' : Reply} (h : Fetched git c b past r r') (hsuccess : r'.status = 0) :
    Served b past (fetching c b r (.ok r'))

inductive AllServed : List String → Past → Past → Prop
  | nil {past : Past} : AllServed [] past []
  | cons {b : String} {bs : List String} {past log more : Past} (h : Served git c b past log)
    (rest : AllServed bs (past ++ log) more) : AllServed (b :: bs) past (log ++ more)

/-- How a branch cannot be had, and what is said of it: git fails to fetch it, or one of the two
commands cannot be started. -/
inductive Refused (b : String) (past : Past) : Past → Fault → Prop
  | notFound {r r' : Reply} (h : Fetched git c b past r r') (hfailed : r'.status ≠ 0)
    (hphrase : Mentions r'.err "couldn't find remote ref") :
    Refused b past (fetching c b r (.ok r')) (.branchNotFound b)
  | failed {r r' : Reply} (h : Fetched git c b past r r') (hfailed : r'.status ≠ 0)
    (hphrase : ¬ Mentions r'.err "couldn't find remote ref") :
    Refused b past (fetching c b r (.ok r'))
      (.gitCommandFailed ("git fetch origin " ++ mapping b) r'.err)
  | unasked {fault : Fault} (h : outcome git c past (askArgs b) = .error fault) :
    Refused b past [ran c (askArgs b) (.error fault)] (fault.context "Failed to run git show-ref")
  | unfetched {r : Reply} {fault : Fault} (h : Unknown git c b past r)
    (h' : outcome git c (past ++ [ran c (askArgs b) (.ok r)]) (getArgs b) = .error fault) :
    Refused b past (fetching c b r (.error fault)) (fault.context "Failed to fetch branch")

end

section Steps

variable {git : Oracle} {c : Clone} {b : String} {past log : Past} {r : Reply} {fault : Fault}

theorem branchFetched_of_success (h : r.status = 0) : branchFetched b r = .ok () :=
  if_pos (isSuccess_of_eq h)

theorem branchFetched_of_notFound (h : r.status ≠ 0)
    (hphrase : Mentions r.err "couldn't find remote ref") :
    branchFetched b r = .error (.branchNotFound b) := by
  rw [branchFetched, if_neg (by simp [isSuccess_of_ne h]), if_pos (contains_iff.mpr hphrase)]

theorem branchFetched_of_failed (h : r.status ≠ 0)
    (hphrase : ¬ Mentions r.err "couldn't find remote ref") :
    branchFetched b r = .error (.gitCommandFailed ("git fetch origin " ++ mapping b) r.err) := by
  have hcommand : "git fetch " ++ remoteName ++ " " = "git fetch origin " := by decide
  rw [branchFetched, if_neg (by simp [isSuccess_of_ne h]), if_neg (mt contains_iff.mp hphrase),
    hcommand, refspec_eq]

theorem fetching_eq (outcome : Except Fault Reply) : fetching c b r outcome =
    [ran c (hasBranchArgs b) (.ok r), ran c (fetchBranchArgs b) outcome] := by
  rw [hasBranchArgs_eq, fetchBranchArgs_eq, fetching]

theorem Unknown.asked (h : Unknown git c b past r) :
    outcome git c past (hasBranchArgs b) = .ok r ∧ r.status ≠ 0 := by
  rw [hasBranchArgs_eq]
  exact ⟨h.outcome_eq, h.status_ne⟩

theorem Fetched.ensure {r' : Reply} (h : Fetched git c b past r r') :
    Ensure git c b past (fetching c b r (.ok r')) (branchFetched b r') := by
  obtain ⟨hunknown, hfetch⟩ := h
  obtain ⟨hasked, hne⟩ := hunknown.asked
  rw [← hasBranchArgs_eq, ← fetchBranchArgs_eq] at hfetch
  rw [fetching_eq]
  exact .fetched hasked hne hfetch

theorem Served.ensure (h : Served git c b past log) : Ensure git c b past log (.ok ()) := by
  cases h with
  | known h hknown =>
    rw [← hasBranchArgs_eq] at h ⊢
    exact .known h hknown
  | fetched h hsuccess =>
    rw [← branchFetched_of_success hsuccess]
    exact h.ensure

theorem Refused.ensure (h : Refused git c b past log fault) :
    Ensure git c b past log (.error fault) := by
  cases h with
  | notFound h hfailed hphrase =>
    rw [← branchFetched_of_notFound hfailed hphrase]
    exact h.ensure
  | failed h hfailed hphrase =>
    rw [← branchFetched_of_failed hfailed hphrase]
    exact h.ensure
  | unasked h =>
    rw [← hasBranchArgs_eq] at h ⊢
    exact .unstarted h
  | unfetched h h' =>
    obtain ⟨hasked, hne⟩ := h.asked
    rw [← hasBranchArgs_eq, ← fetchBranchArgs_eq] at h'
    rw [fetching_eq]
    exact .unstartedFetch hasked hne h'

/-- A branch is made visible, or it cannot be had. -/
theorem served_or_refused (git : Oracle) (c : Clone) (b : String) (past : Past) :
    (∃ log, Served git c b past log) ∨ ∃ log fault, Refused git c b past log fault := by
  cases h : outcome git c past (askArgs b) with
  | error fault => exact .inr ⟨_, _, .unasked h⟩
  | ok r =>
  by_cases hr : r.status = 0
  case pos => exact .inl ⟨_, .known h hr⟩
  have hunknown : Unknown git c b past r := ⟨h, hr⟩
  cases h' : outcome git c (past ++ [ran c (askArgs b) (.ok r)]) (getArgs b) with
  | error fault => exact .inr ⟨_, _, .unfetched hunknown h'⟩
  | ok r' =>
  have hfetched : Fetched git c b past r r' := ⟨hunknown, h'⟩
  by_cases hr' : r'.status = 0
  case pos => exact .inl ⟨_, .fetched hfetched hr'⟩
  by_cases hphrase : Mentions r'.err "couldn't find remote ref"
  case pos => exact .inr ⟨_, _, .notFound hfetched hr' hphrase⟩
  exact .inr ⟨_, _, .failed hfetched hr' hphrase⟩

end Steps

section Lists

variable {git : Oracle} {c : Clone} {names before after : List String} {b : String}
  {past log done last : Past} {fault : Fault}

/-- Once some branches have been made visible, the rest of the call is about the others. -/
theorem AllServed.ensureBranches_append (h : AllServed git c before past done)
    (names : List String) :
    let rest := (git.within c).ensureBranches names (past ++ done)
    (git.within c).ensureBranches (before ++ names) past = ⟨done ++ rest.log, rest.result⟩ := by
  induction h with
  | nil => simp
  | @cons b bs past log more h _ ih =>
    have hstep := Conversation.bind_of_ok h.ensure.ensureBranch_eq
      fun _ => (git.within c).ensureBranches (bs ++ names)
    rw [ih, List.append_assoc, ← List.append_assoc log] at hstep
    exact hstep

theorem AllServed.ensureBranches_eq (h : AllServed git c names past log) :
    (git.within c).ensureBranches names past = ⟨log, .ok ()⟩ := by
  have happend := h.ensureBranches_append []
  rw [List.append_nil] at happend
  rw [happend]
  exact congrArg (Traced.mk · _) (List.append_nil _)

theorem AllServed.ensureBranches_of_refused (h : AllServed git c before past done)
    (hrefused : Refused git c b (past ++ done) last fault) :
    (git.within c).ensureBranches (before ++ b :: after) past = ⟨done ++ last, .error fault⟩ := by
  have hstep : (git.within c).ensureBranches (b :: after) (past ++ done) = ⟨last, .error fault⟩ :=
    Conversation.bind_of_error hrefused.ensure.ensureBranch_eq _
  have happend := h.ensureBranches_append (b :: after)
  rwa [hstep] at happend

theorem allServed_or_refused (git : Oracle) (c : Clone) (names : List String) (past : Past) :
    (∃ log, AllServed git c names past log) ∨
      ∃ before b after done last fault, names = before ++ b :: after ∧
        AllServed git c before past done ∧ Refused git c b (past ++ done) last fault := by
  induction names generalizing past with
  | nil => exact .inl ⟨_, .nil⟩
  | cons b names ih =>
    obtain ⟨log, hserved⟩ | ⟨log, fault, hrefused⟩ := served_or_refused git c b past
    case inr =>
      refine .inr ⟨[], b, names, [], log, fault, rfl, .nil, ?_⟩
      rwa [List.append_nil]
    obtain ⟨more, hall⟩ | ⟨before, b', after, done, last, fault, rfl, hall, hrefused⟩ :=
      ih (past ++ log)
    · exact .inl ⟨_, .cons hserved hall⟩
    · refine .inr ⟨b :: before, b', after, log ++ done, last, fault, rfl, .cons hserved hall, ?_⟩
      rwa [← List.append_assoc]

end Lists

/-- Making branches visible succeeds exactly if git knows or fetches one after the other, and fails
exactly at the first that cannot be had. Nothing else is asked of git, and nothing after that. -/
theorem ensureBranches_exact (git : Oracle) (c : Clone) (names : List String) (past : Past) :
    (∀ log, (git.access c).ensureBranches names past = ⟨log, .ok ()⟩ ↔
      AllServed git c names past log) ∧
    ∀ log fault, (git.access c).ensureBranches names past = ⟨log, .error fault⟩ ↔
      ∃ before b after done last, names = before ++ b :: after ∧
        AllServed git c before past done ∧ Refused git c b (past ++ done) last fault ∧
        log = done ++ last := by
  refine ⟨fun log => ⟨fun h => ?_, AllServed.ensureBranches_eq⟩,
    fun log fault => ⟨fun h => ?_, ?_⟩⟩
  -- There is one way or the other for these branches, and the call does what it says.
  · obtain ⟨log', hall⟩ | ⟨before, b, after, done, last, fault, rfl, hall, hrefused⟩ :=
      allServed_or_refused git c names past
    · obtain ⟨rfl, -⟩ := Traced.mk.inj (h.symm.trans hall.ensureBranches_eq)
      exact hall
    · cases h.symm.trans (hall.ensureBranches_of_refused hrefused)
  · obtain ⟨log', hall⟩ | ⟨before, b, after, done, last, fault', rfl, hall, hrefused⟩ :=
      allServed_or_refused git c names past
    · cases h.symm.trans hall.ensureBranches_eq
    · obtain ⟨rfl, hsame⟩ := Traced.mk.inj (h.symm.trans (hall.ensureBranches_of_refused hrefused))
      cases hsame
      exact ⟨before, b, after, done, last, rfl, hall, hrefused, rfl⟩
  · rintro ⟨before, b, after, done, last, rfl, hall, hrefused, rfl⟩
    exact hall.ensureBranches_of_refused hrefused

/-- A name with a NUL in it: git is never asked for it, and what is said is not about a branch. -/
theorem nul_name_unasked :
    let talk := ((steady silentGit).access sampleClone).ensureBranches ["a\x00b"] []
    talk.log.flatMap seen = [] ∧ talk.result ≠ .ok () ∧
      talk.result ≠ .error (.branchNotFound "a\x00b") ∧
      ∀ err, talk.result ≠
        .error (.gitCommandFailed ("git fetch origin " ++ mapping "a\x00b") err) := by
  intro talk
  have htalk : talk.result = .error (.message "I/O error: nul byte found in provided data"
      ["Failed to run git show-ref"] none) := rfl
  rw [htalk]
  exact ⟨rfl, nofun, nofun, fun _ => nofun⟩

end Branches
end ReleaseAudit

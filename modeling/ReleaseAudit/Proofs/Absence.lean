import ReleaseAudit.Proofs.Course
import ReleaseAudit.Proofs.Faithful

/-! What a clone makes of commands that fail: the call fails with them, but for the two that only ask
whether something is there. These count as a no, whatever they exit with. -/
namespace ReleaseAudit
namespace Absence

open Git Course
open Steering (Past Heeds heeds_nil heeds_one)

variable {α : Type} {git : Oracle} {c : Clone} {reference b : String} {names : List String}
  {past log : Past}

/-- A command that could not be started, or that exits with anything but zero. -/
def Failed (e : Execution) : Prop := ∀ r, e.outcome = .ok r → r.status ≠ 0

def Exits (c : Clone) (args : List String) (e : Execution) : Prop :=
  e.command = c.command args ∧ ∃ r, e.outcome = .ok r

/-- Where a command fails the call fails, unless the command is excused. -/
def Surfaces (excused : Execution → Prop) (log : Past) (result : Except Fault α) : Prop :=
  ∀ e, .inl e ∈ log → Failed e → excused e ∨ ∃ fault, result = .error fault

section Surfaces

variable {excused : Execution → Prop} {result : Except Fault α} {args : List String} {r : Reply}

theorem surfaces_of_error (fault : Fault) :
    Surfaces excused log (.error fault : Except Fault α) := fun _ _ _ => .inr ⟨fault, rfl⟩

theorem surfaces_nil : Surfaces excused [] result := fun _ he => nomatch he

theorem surfaces_of_success (h : r.status = 0) :
    Surfaces excused [ran c args (.ok r)] result := by
  intro e he hfailed
  cases List.mem_singleton.mp he
  exact absurd h (hfailed r rfl)

theorem surfaces_of_excused {o : Except Fault Reply} (h : excused ⟨c.command args, o⟩) :
    Surfaces excused [ran c args o] result := by
  intro e he _
  cases List.mem_singleton.mp he
  exact .inl h

theorem Surfaces.append {more : Past} (h : Surfaces excused log result)
    (h' : Surfaces excused more result) : Surfaces excused (log ++ more) result :=
  fun e he => (List.mem_append.mp he).elim (h e) (h' e)

/-- Nothing but excused commands fails before a call goes on. -/
theorem Surfaces.goOn {β : Type} {a : α} (h : Surfaces excused log (.ok a)) (result : Except Fault β) :
    Surfaces excused log result := by
  intro e he hfailed
  rcases h e he hfailed with hexcused | ⟨fault, hfault⟩
  · exact .inl hexcused
  · cases hfault

theorem Surfaces.mono {more : Execution → Prop} (h : Surfaces excused log result)
    (hmore : ∀ e, excused e → more e) : Surfaces more log result :=
  fun e he hfailed => (h e he hfailed).imp_left (hmore e)

end Surfaces

/-- What there is to see where a reference is taken to name nothing. -/
inductive Absent (c : Clone) (reference : String) : Past → Prop
  | unasked (h : reference = "" ∨ reference.toList.head? = some '-') : Absent c reference []
  | unresolved {r : Reply} (h : r.status ≠ 0) :
    Absent c reference [ran c (resolveArgs reference) (.ok r)]
  | unpublished {r r' : Reply} (h : r.status = 0) (h' : r'.status = 0)
    (hblank : Text.isAllBlank r'.out = true) :
    Absent c reference [ran c (resolveArgs reference) (.ok r),
      ran c (publishedArgs (Text.trim r.out)) (.ok r')]

theorem absent_of_lookUp (h : LookUp git c reference past log (.ok none)) :
    Absent c reference log := by
  cases h with
  | unasked h => exact .unasked h
  | unresolved _ _ hfailed => exact .unresolved hfailed
  | unpublished h _ hsuccess hblank => exact .unpublished h.status_eq hsuccess hblank

theorem surfaces_publishing {excused : Execution → Prop} {result : Except Fault α} {r r' : Reply}
    (h : r.status = 0) (h' : r'.status = 0) :
    Surfaces excused (publishing c reference r r') result :=
  (surfaces_of_success h).append (surfaces_of_success h')

theorem surfaces_of_lookUp {result : Except Fault (Option Commit)}
    (h : LookUp git c reference past log result) :
    Surfaces (Exits c (resolveArgs reference)) log result := by
  cases h with
  | unasked => exact surfaces_nil
  | unstarted => exact surfaces_of_error _
  | unresolved => exact surfaces_of_excused ⟨rfl, _, rfl⟩
  | failed => exact surfaces_of_error _
  | unpublished h _ hsuccess _ => exact surfaces_publishing h.status_eq hsuccess
  | found h _ hsuccess _ _ =>
    exact (surfaces_publishing h.resolves.status_eq h.status_eq).append (surfaces_of_success hsuccess)

theorem branchFetched_of_failure {r : Reply} (h : r.status ≠ 0) (b : String) :
    ∃ fault, branchFetched b r = .error fault := by
  unfold branchFetched
  rw [isSuccess_of_ne h]
  split
  · contradiction
  · split <;> exact ⟨_, rfl⟩

theorem surfaces_of_ensure {result : Except Fault Unit} (h : Ensure git c b past log result) :
    Surfaces (Exits c (hasBranchArgs b)) log result := by
  cases h with
  | unstarted => exact surfaces_of_error _
  | known _ hknown => exact surfaces_of_success hknown
  | unstartedFetch => exact surfaces_of_error _
  | @fetched r r' _ _ _ =>
    by_cases hr : r'.status = 0
    · have hasked : Surfaces (Exits c (hasBranchArgs b)) [ran c (hasBranchArgs b) (.ok r)]
          (branchFetched b r') := surfaces_of_excused ⟨rfl, r, rfl⟩
      exact hasked.append (surfaces_of_success hr)
    · obtain ⟨fault, hfault⟩ := branchFetched_of_failure hr b
      rw [hfault]
      exact surfaces_of_error fault

theorem surfaces_of_sync {result : Except Fault Unit} (h : Sync git c names past log result) :
    Surfaces (fun e => ∃ b ∈ names, Exits c (hasBranchArgs b) e) log result := by
  induction h with
  | done => exact surfaces_nil
  | stopped h =>
    exact (surfaces_of_ensure h).mono fun e he => ⟨_, List.mem_cons_self, he⟩
  | next h _ ih =>
    -- the call goes on, so all that failed up to here is excused, whatever comes of the rest
    refine (((surfaces_of_ensure h).goOn _).mono ?first).append (ih.mono ?rest)
    case first => exact fun e he => ⟨_, List.mem_cons_self, he⟩
    case rest =>
      rintro e ⟨b, hb, he⟩
      exact ⟨b, List.mem_cons_of_mem _ hb, he⟩

/-- A branch is fetched only right after the question whether it is there has been answered by
anything but a yes. -/
def FetchesUnknown (c : Clone) (before : Past) (command : Command) : Prop :=
  ∀ b, command = c.command (fetchBranchArgs b) →
    ∃ earlier r, before = earlier ++ [ran c (hasBranchArgs b) (.ok r)] ∧ r.status ≠ 0

theorem command_inj {args args' : List String} (h : c.command args = c.command args') :
    args = args' := by
  simpa [Clone.command, isolated] using h

theorem heeds_asking (outcome : Except Fault Reply) :
    Heeds (FetchesUnknown c) past [ran c (hasBranchArgs b) outcome] := by
  refine heeds_one fun b' h => ?_
  have hword : "show-ref" = "fetch" := (List.cons.inj (command_inj h)).1
  exact absurd hword (by decide)

theorem heeds_fetching {r : Reply} (hunknown : r.status ≠ 0) (outcome : Except Fault Reply) :
    Heeds (FetchesUnknown c) past
      [ran c (hasBranchArgs b) (.ok r), ran c (fetchBranchArgs b) outcome] := by
  refine (heeds_asking (.ok r)).append (heeds_one fun b' h => ?_)
  have hspec : refspec b = refspec b' := by simpa [fetchBranchArgs] using command_inj h
  obtain rfl := Faithful.refspec_inj hspec
  exact ⟨past, r, rfl, hunknown⟩

theorem heeds_of_ensure {result : Except Fault Unit} (h : Ensure git c b past log result) :
    Heeds (FetchesUnknown c) past log := by
  cases h with
  | unstarted => exact heeds_asking _
  | known => exact heeds_asking _
  | unstartedFetch _ hunknown _ => exact heeds_fetching hunknown _
  | fetched _ hunknown _ => exact heeds_fetching hunknown _

theorem heeds_of_sync {result : Except Fault Unit} (h : Sync git c names past log result) :
    Heeds (FetchesUnknown c) past log := by
  induction h with
  | done => exact heeds_nil
  | stopped h => exact heeds_of_ensure h
  | next h _ ih => exact (heeds_of_ensure h).append ih

/-- A reference is taken to name nothing only if it is none, if resolving it fails, or if nothing
published has its sha. A branch is fetched only if asking for it has failed. Every other failure of a
command is one of the call. -/
theorem failure_surfaces (git : Oracle) (c : Clone) (past : Past) :
    (∀ reference, let talk := (git.access c).lookUp reference past
      (talk.result = .ok none → Absent c reference talk.log) ∧
      Surfaces (Exits c (resolveArgs reference)) talk.log talk.result) ∧
    ∀ names, let talk := (git.access c).ensureBranches names past
      Heeds (FetchesUnknown c) past talk.log ∧
      Surfaces (fun e => ∃ b ∈ names, Exits c (hasBranchArgs b) e) talk.log talk.result := by
  refine ⟨fun reference => ?_, fun names => ?_⟩
  · intro talk
    have hcourse : LookUp git c reference past talk.log talk.result := lookUp_eq_iff.mp rfl
    refine ⟨fun hnone => ?_, surfaces_of_lookUp hcourse⟩
    rw [hnone] at hcourse
    exact absent_of_lookUp hcourse
  · have hsync := sync_ensureBranches git c names past
    exact ⟨heeds_of_sync hsync, surfaces_of_sync hsync⟩

section Samples

def brokenGit : Git := fun command =>
  .ok <| match subcommand command.args with
    | "fetch" :: _ => ⟨0, "", ""⟩
    | _ => ⟨128, "", "fatal: not a git repository\n"⟩

def brokenClone : Clone := ⟨⟨"/cache"⟩, [], brokenGit⟩

/-- The clone is said to lack what git could not look for. -/
theorem broken_reads_as_absent :
    let failure : Reply := ⟨128, "", "fatal: not a git repository\n"⟩
    let branch := "rc--2024-05-04_09-30"
    isUnsafe "main" = false ∧
    brokenGit (brokenClone.command (resolveArgs "main")) = .ok failure ∧
    brokenClone.lookUp "main" = ⟨[.ran (brokenClone.command (resolveArgs "main"))], .ok none⟩ ∧
    brokenGit (brokenClone.command (hasBranchArgs branch)) = .ok failure ∧
    brokenClone.ensureBranches [branch] =
      ⟨[.ran (brokenClone.command (hasBranchArgs branch)),
        .ran (brokenClone.command (fetchBranchArgs branch))], .ok ()⟩ := by
  refine ⟨by decide, rfl, rfl, rfl, rfl⟩

end Samples

end Absence
end ReleaseAudit

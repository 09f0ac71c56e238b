import ReleaseAudit.Git.Script
import ReleaseAudit.Proofs.Folders
import ReleaseAudit.Proofs.Steering

/-! What becomes of the path of a clone: what stands there is opened, left alone or cloned into, and
never overwritten. -/
namespace ReleaseAudit
namespace CachePath

open Git
open Steering (Past)

abbrev Course := Traced (Execution ⊕ Effect) Clone

/-- There is something inside the folder at a path. -/
def Occupied (fs : FileSystem) (path : Path) : Prop :=
  ∃ place name e, fs.locate path = .ok place ∧ fs.entryAt? place = some .folder ∧
    fs.entryAt? (place ++ [name]) = some e

/-- There is nothing at a path, or a folder with nothing inside. -/
def Free (fs : FileSystem) (path : Path) : Prop :=
  fs.exists? path = false ∨ fs.find path = .ok .folder ∧ ¬ Occupied fs path

def HasClone (fs : FileSystem) (path : Path) : Prop := fs.exists? (path.join ⟨".git"⟩) = true

section Places

variable {fs : FileSystem} {path : Path} {place : Place}

theorem exists_entry_iff {q : Place} :
    (∃ e, fs.entries.lookup q = some e) ↔ q ∈ fs.entries.map (·.1) := by
  rw [← Option.isSome_iff_exists, List.lookup_isSome_iff, List.mem_map]
  exact exists_congr fun p => and_congr_right fun _ => by rw [beq_iff_eq, eq_comm]

theorem children_eq_nil_iff (hlocate : fs.locate path = .ok place)
    (hfolder : fs.entryAt? place = some .folder) :
    fs.children path = .ok [] ↔ ¬ Occupied fs path := by
  have hchildren : fs.children path =
      .ok ((fs.entries.map (·.1)).filter fun q => q ≠ [] && q.dropLast = place) := by
    unfold FileSystem.children FileSystem.requireFolder
    rw [hlocate, ok_bind, hfolder]
    rfl
  rw [hchildren, Except.ok.injEq, List.filter_eq_nil_iff]
  constructor
  · rintro hnone ⟨place', name, e, hlocate', -, he⟩
    rw [hlocate] at hlocate'
    cases hlocate'
    have hne : place ++ [name] ≠ [] := by simp
    rw [FileSystem.entryAt?, if_neg hne] at he
    exact hnone _ (exists_entry_iff.mp ⟨e, he⟩) (by simp)
  · intro hfree q hq hchild
    obtain ⟨hne, rfl⟩ : q ≠ [] ∧ q.dropLast = place := by simpa using hchild
    obtain ⟨e, he⟩ := exists_entry_iff.mpr hq
    refine hfree ⟨q.dropLast, q.getLast hne, e, hlocate, hfolder, ?_⟩
    rw [List.dropLast_concat_getLast hne, FileSystem.entryAt?, if_neg hne]
    exact he

def inUse (path : Path) : Fault :=
  .withHelp ("Repository cache path " ++ path.text ++ " exists and is not a git clone")
    "Remove the directory or point --repo-path somewhere else"

theorem requireUnused_of_occupied (h : Occupied fs path) :
    requireUnused fs path = .error (inUse path) := by
  obtain ⟨place, _, _, hlocate, hfolder, _⟩ := id h
  have hexists : fs.exists? path = true :=
    FileSystem.exists?_iff.mpr ⟨.folder, FileSystem.find_eq_ok.mpr ⟨place, hlocate, hfolder⟩⟩
  have hsome := mt (children_eq_nil_iff hlocate hfolder).mp (not_not_intro h)
  unfold requireUnused
  rw [if_pos hexists]
  unfold FileSystem.children FileSystem.requireFolder at hsome ⊢
  rw [hlocate, ok_bind, hfolder, ok_bind] at hsome ⊢
  split
  · next he => cases he
  · next he => exact absurd he hsome
  · rfl

theorem requireUnused_of_file {bytes : List UInt8} (h : fs.find path = .ok (.file bytes)) :
    requireUnused fs path = .error (.system .notDirectory) := by
  have hexists : fs.exists? path = true := FileSystem.exists?_iff.mpr ⟨_, h⟩
  obtain ⟨place, hlocate, hfile⟩ := FileSystem.find_eq_ok.mp h
  have hchildren : fs.children path = .error .notDirectory := by
    unfold FileSystem.children FileSystem.requireFolder
    rw [hlocate, ok_bind, hfile]
    rfl
  unfold requireUnused
  rw [if_pos hexists, hchildren]

theorem requireUnused_of_free (h : Free fs path) : requireUnused fs path = .ok () := by
  unfold requireUnused
  rcases h with hmissing | ⟨hfind, hfree⟩
  · rw [hmissing]
    rfl
  · obtain ⟨place, hlocate, hfolder⟩ := FileSystem.find_eq_ok.mp hfind
    rw [(children_eq_nil_iff hlocate hfolder).mpr hfree]
    exact ite_self _

theorem occupied_or_file_or_free (fs : FileSystem) (path : Path) :
    Occupied fs path ∨ (∃ bytes, fs.find path = .ok (.file bytes)) ∨ Free fs path := by
  by_cases hoccupied : Occupied fs path
  · exact .inl hoccupied
  · right
    cases hfind : fs.find path with
    | error e => exact .inr (.inl (by simp [FileSystem.exists?, hfind]))
    | ok e =>
      cases e with
      | folder => exact .inr (.inr ⟨hfind, hoccupied⟩)
      | file bytes => exact .inl ⟨bytes, rfl⟩

end Places

/-- The folders that are made around a path. -/
def madeAround (fs : FileSystem) (path : Path) : List Path :=
  match path.parent with
  | none => []
  | some outer => (fs.makeFolders (outer.text.length + 1) outer).1

/-- Why the folders around a path cannot be made, if they cannot. -/
def blockedBy? (fs : FileSystem) (path : Path) : Option Fault :=
  match path.parent with
  | none => none
  | some outer =>
    match (fs.makeFolders (outer.text.length + 1) outer).2 with
    | .ok _ => none
    | .error e =>
      some ((Fault.system e).context ("Failed to create cache directory " ++ outer.text))

def folders (made : List Path) : Past := (made.map .madeFolder).map .inr

theorem mem_madeAround {fs : FileSystem} {path p : Path} (h : p ∈ madeAround fs path) :
    Relation.TransGen FileSystem.IsParent p path ∧ fs.exists? p = false := by
  unfold madeAround at h
  split at h
  · cases h
  · next outer houter =>
    obtain ⟨hwithin, hmissing⟩ := (FileSystem.makes_makeFolders _ fs outer).missing p h
    exact ⟨.tail' hwithin houter, hmissing⟩

theorem madeAround_of_isFolder {fs : FileSystem} {path outer : Path}
    (houter : path.parent = some outer) (h : fs.isFolder outer = true) :
    madeAround fs path = [] ∧ blockedBy? fs path = none := by
  unfold madeAround blockedBy?
  rw [houter]
  dsimp only
  rw [FileSystem.makeFolders_of_isFolder _ h]
  exact ⟨rfl, rfl⟩

theorem isFolder_of_madeAround {fs : FileSystem} {path outer : Path}
    (houter : path.parent = some outer) (h : blockedBy? fs path = none) :
    outer.text = "" ∨ (fs.after ((madeAround fs path).map .madeFolder)).isFolder outer = true := by
  have hmakes := FileSystem.makes_makeFolders (outer.text.length + 1) fs outer
  unfold blockedBy? at h
  unfold madeAround
  rw [houter] at h ⊢
  dsimp only at h ⊢
  split at h
  · next more hmore =>
    rw [hmakes.after more hmore]
    exact hmakes.isFolder more hmore
  · cases h

theorem makeParent_apply (fs : FileSystem) (path : Path) (past : Past) :
    (makeParent fs path : Conversation Execution Effect Unit) past =
      ⟨folders (madeAround fs path), (blockedBy? fs path).elim (.ok ()) .error⟩ := by
  unfold makeParent madeAround blockedBy?
  cases path.parent with
  | none => rfl
  | some outer =>
    dsimp only
    generalize fs.makeFolders (outer.text.length + 1) outer = r
    obtain ⟨made, result⟩ := r
    rw [Conversation.bind_apply, Traced.bind_of_ok rfl]
    cases result <;> exact congrArg (Traced.mk · _) (List.append_nil _)

section Commands

variable (git : Oracle) (m : Machine) (path : Path) (remote mainBranch : String) (past : Past)

def issue (command : Command) : Execution := ⟨command, (git past).answer command⟩

/-- The question whether there is a clone. -/
def query : Execution := issue git past (openCommand m.environment path)

def opening (outcome : Except Fault Reply) : Except Fault Clone :=
  outcome.mapError (Fault.context "Failed to execute git rev-parse") >>= opened m path

def preparation : Past :=
  folders (madeAround m.files path) ++
    [.inr (.noted ("   Cloning " ++ remote ++ " into " ++ path.text ++ "..."))]

/-- The command that makes the clone. -/
def attempt : Execution :=
  issue git (past ++ preparation m path remote)
    (isolated m.environment (cloneArgs mainBranch remote path))

def attempted : Past :=
  preparation m path remote ++ [.inl (attempt git m path remote mainBranch past)]

/-- The four ways in which cloning goes. -/
inductive Cloning : Course → Prop
  | blocked {e : Fault} (h : blockedBy? m.files path = some e) :
    Cloning ⟨folders (madeAround m.files path), .error e⟩
  | unstarted {e : Fault} (hready : blockedBy? m.files path = none)
    (h : (attempt git m path remote mainBranch past).outcome = .error e) :
    Cloning ⟨attempted git m path remote mainBranch past,
      .error (e.context "Failed to run git clone")⟩
  | failed {reply : Reply} (hready : blockedBy? m.files path = none)
    (h : (attempt git m path remote mainBranch past).outcome = .ok reply)
    (hfailed : reply.isSuccess = false) :
    Cloning ⟨attempted git m path remote mainBranch past,
      .error (.cloneFailed remote path reply.err)⟩
  | cloned {reply : Reply} {last : Execution} (hready : blockedBy? m.files path = none)
    (h : (attempt git m path remote mainBranch past).outcome = .ok reply)
    (hcloned : reply.isSuccess = true)
    (hlast : last = query git m path (past ++ attempted git m path remote mainBranch past)) :
    Cloning ⟨attempted git m path remote mainBranch past ++ [.inl last],
      opening m path last.outcome⟩

def isClone : Execution ⊕ Effect → Bool
  | .inl execution => (subcommand execution.command.args).head? = some "clone"
  | .inr _ => false

/-- The marks that opening or cloning leaves: folders that were missing around the path, and at most
one clone, where there was nothing. -/
structure Harmless (x : Course) : Prop where
  parents : ∀ p, .inr (.madeFolder p) ∈ x.log →
    Relation.TransGen FileSystem.IsParent p path ∧ m.files.exists? p = false
  ready : ∀ outer, path.parent = some outer → m.files.isFolder outer = true →
    blockedBy? m.files path = none ∧ ∀ p, .inr (.madeFolder p) ∉ x.log
  surrounded : ∀ outer, path.parent = some outer → (∃ event ∈ x.log, isClone event = true) →
    outer.text = "" ∨ (m.files.after (x.log.flatMap seen)).isFolder outer = true
  /-- At the outset there was nothing where a clone is made. -/
  free : ∀ event ∈ x.log, isClone event = true → ¬ HasClone m.files path ∧ Free m.files path
  once : x.log.countP isClone ≤ 1
  untouched : m.files.Within (m.files.after (x.log.flatMap seen))
  added : ∀ place e, (m.files.after (x.log.flatMap seen)).entryAt? place = some e →
    m.files.entryAt? place = some e ∨ m.files.entryAt? place = none ∧ e = .folder

/-- What opening or cloning comes to, by what there is at the path before. -/
structure Careful (remote : Option String) (x : Course) : Prop extends Harmless m path x where
  reuses : HasClone m.files path →
    x = ⟨[.inl (query git m path past)], opening m path (query git m path past).outcome⟩
  missing : ¬ HasClone m.files path → remote = none → x = ⟨[], .error (.repositoryNotFound path)⟩
  occupied : ¬ HasClone m.files path → ∀ r, remote = some r → Occupied m.files path →
    x = ⟨[], .error (inUse path)⟩
  file : ¬ HasClone m.files path → ∀ r, remote = some r →
    ∀ bytes, m.files.find path = .ok (.file bytes) → x = ⟨[], .error (.system .notDirectory)⟩
  clones : ¬ HasClone m.files path → ∀ r, remote = some r → Free m.files path →
    Cloning git m path r mainBranch past x ∧
    x.log.countP isClone = if blockedBy? m.files path = none then 1 else 0

end Commands

variable {git : Oracle} {m : Machine} {path : Path} {mainBranch : String} {past : Past}

theorem shell_apply (failure : String) (command : Command) :
    git.shell failure command past = ⟨[.inl (issue git past command)],
      (issue git past command).outcome.mapError (Fault.context failure)⟩ := rfl

theorem openClone_apply : git.shell.openClone m path past =
    ⟨[.inl (query git m path past)], opening m path (query git m path past).outcome⟩ := by
  unfold Shell.openClone
  rw [Conversation.bind_apply, shell_apply]
  simp only [Conversation.ofExcept_apply]
  exact Traced.bind_ofExcept _ _

theorem prepare_apply (hready : blockedBy? m.files path = none) (remote : String) :
    (makeParent m.files path >>= fun _ => Tracing.emitAll
      [.noted ("   Cloning " ++ remote ++ " into " ++ path.text ++ "...")] :
        Conversation Execution Effect Unit) past = ⟨preparation m path remote, .ok ()⟩ := by
  have hmade := makeParent_apply m.files path past
  rw [hready] at hmade
  rw [Conversation.bind_of_ok hmade]
  rfl

theorem cloning_makeClone (hfree : Free m.files path) (remote : String) :
    Cloning git m path remote mainBranch past
      (git.shell.makeClone m path remote mainBranch past) := by
  unfold Shell.makeClone
  rw [requireUnused_of_free hfree]
  change Cloning git m path remote mainBranch past ((pure () >>= _ : Conversation _ _ _) past)
  rw [Conversation.pure_bind]
  cases hready : blockedBy? m.files path with
  | some e =>
    have hmade := makeParent_apply m.files path past
    rw [hready] at hmade
    rw [Conversation.bind_of_error hmade]
    exact .blocked hready
  | none =>
    -- All that comes before the command is taken as one step, which cannot fail any more.
    rw [← bind_assoc, Conversation.bind_of_ok (prepare_apply hready remote)]
    have hshell : git.shell "Failed to run git clone"
        (isolated m.environment (cloneArgs mainBranch remote path))
        (past ++ preparation m path remote) =
      ⟨[.inl (attempt git m path remote mainBranch past)],
        (attempt git m path remote mainBranch past).outcome.mapError
          (Fault.context "Failed to run git clone")⟩ := rfl
    cases houtcome : (attempt git m path remote mainBranch past).outcome with
    | error e =>
      rw [houtcome] at hshell
      rw [Conversation.bind_of_error hshell]
      exact .unstarted hready houtcome
    | ok reply =>
      rw [houtcome] at hshell
      rw [Conversation.bind_of_ok hshell]
      cases hreply : reply.isSuccess with
      | false =>
        have hcloned : cloned remote path reply = .error (.cloneFailed remote path reply.err) := by
          simp [cloned, hreply]
        rw [hcloned]
        exact .failed hready houtcome hreply
      | true =>
        have hcloned : cloned remote path reply = .ok () := by simp [cloned, hreply]
        have hopen : ∀ here, ((Tracing.ofExcept (.ok ()) >>= fun _ => git.shell.openClone m path :
            Conversation Execution Effect Clone) here) = git.shell.openClone m path here :=
          fun here => congrFun (Conversation.pure_bind () fun _ => git.shell.openClone m path) here
        rw [hcloned, hopen, openClone_apply, ← List.append_assoc, List.append_assoc past]
        exact .cloned hready houtcome hreply rfl

theorem isClone_attempt (remote : String) :
    isClone (.inl (attempt git m path remote mainBranch past)) = true := rfl

theorem isClone_query (past : Past) : isClone (.inl (query git m path past)) = false := rfl

theorem isClone_of_mem_folders {made : List Path} {event : Execution ⊕ Effect}
    (h : event ∈ folders made) : isClone event = false := by
  obtain ⟨effect, -, rfl⟩ := List.mem_map.mp h
  rfl

theorem isClone_of_mem_preparation {remote : String} {event : Execution ⊕ Effect}
    (h : event ∈ preparation m path remote) : isClone event = false := by
  rcases List.mem_append.mp h with hmade | hnoted
  · exact isClone_of_mem_folders hmade
  · rw [List.mem_singleton.mp hnoted]
    rfl

theorem countP_isClone {log : Past} (h : ∀ event ∈ log, isClone event = false) :
    log.countP isClone = 0 :=
  List.countP_eq_zero.mpr fun event hevent => Bool.eq_false_iff.mp (h event hevent)

theorem seen_folders (made : List Path) : (folders made).flatMap seen = made.map .madeFolder := by
  induction made with
  | nil => rfl
  | cons p made ih => exact congrArg (Effect.madeFolder p :: ·) ih

theorem ready_of_log {x : Course} {outer : Path} (houter : path.parent = some outer)
    (hfolder : m.files.isFolder outer = true)
    (hmade : ∀ p, .inr (.madeFolder p) ∈ x.log → p ∈ madeAround m.files path) :
    blockedBy? m.files path = none ∧ ∀ p, .inr (.madeFolder p) ∉ x.log := by
  obtain ⟨hnone, hready⟩ := madeAround_of_isFolder houter hfolder
  rw [hnone] at hmade
  exact ⟨hready, fun p hp => List.not_mem_nil (hmade p hp)⟩

/-- Where nothing is issued but the question for a clone, nothing is made. -/
theorem Harmless.of_queries {x : Course}
    (h : ∀ event ∈ x.log, ∃ past, event = .inl (query git m path past)) : Harmless m path x := by
  have hclone : ∀ event ∈ x.log, isClone event = false := by
    intro event hevent
    obtain ⟨past, rfl⟩ := h event hevent
    exact isClone_query past
  have hmade : ∀ p, .inr (.madeFolder p) ∉ x.log := by
    intro p hp
    obtain ⟨_, hquery⟩ := h _ hp
    cases hquery
  exact {
    parents := fun p hp => absurd hp (hmade p)
    ready := fun outer houter hfolder =>
      ready_of_log houter hfolder fun p hp => absurd hp (hmade p)
    surrounded := fun outer _ ⟨event, hevent, hyes⟩ => by simp [hclone event hevent] at hyes
    free := fun event hevent hyes => by simp [hclone event hevent] at hyes
    once := by
      rw [countP_isClone hclone]
      exact Nat.zero_le 1
    untouched := FileSystem.within_after _ _
    added := fun _ _ => FileSystem.entryAt?_of_after }

namespace Cloning

variable {remote : String} {x : Course} (h : Cloning git m path remote mainBranch past x)
include h

theorem log_cases :
    blockedBy? m.files path ≠ none ∧ x.log = folders (madeAround m.files path) ∨
    blockedBy? m.files path = none ∧ ∃ later,
      x.log = attempted git m path remote mainBranch past ++ later ∧
      ∀ event ∈ later, ∃ past, event = .inl (query git m path past) := by
  cases h with
  | blocked hblocked => exact .inl ⟨by simp [hblocked], rfl⟩
  | unstarted hready | failed hready =>
    exact .inr ⟨hready, [], (List.append_nil _).symm, nofun⟩
  | cloned hready _ _ hlast =>
    refine .inr ⟨hready, _, rfl, fun event hevent => ?_⟩
    rw [List.mem_singleton.mp hevent, hlast]
    exact ⟨_, rfl⟩

theorem mem_madeAround {p : Path} (hp : .inr (.madeFolder p) ∈ x.log) :
    p ∈ madeAround m.files path := by
  rcases h.log_cases with ⟨-, hlog⟩ | ⟨-, later, hlog, hlater⟩
  · rw [hlog] at hp
    simpa [folders] using hp
  · have hnot : .inr (.madeFolder p) ∉ later := by
      intro hin
      obtain ⟨_, hquery⟩ := hlater _ hin
      cases hquery
    rw [hlog] at hp
    simpa [attempted, preparation, folders, hnot] using hp

/-- A clone is made exactly if the folders around it can be made. -/
theorem countP_eq :
    x.log.countP isClone = if blockedBy? m.files path = none then 1 else 0 := by
  rcases h.log_cases with ⟨hblocked, hlog⟩ | ⟨hready, later, hlog, hlater⟩
  · rw [if_neg hblocked, hlog, countP_isClone fun _ => isClone_of_mem_folders]
  · have hlater : later.countP isClone = 0 := by
      refine countP_isClone fun event hevent => ?_
      obtain ⟨past, rfl⟩ := hlater event hevent
      exact isClone_query past
    rw [if_pos hready, hlog, attempted, List.countP_append, List.countP_append, hlater,
      countP_isClone fun _ => isClone_of_mem_preparation, List.countP_singleton,
      isClone_attempt]
    rfl

theorem surrounded {outer : Path} (houter : path.parent = some outer)
    (hissued : ∃ event ∈ x.log, isClone event = true) :
    outer.text = "" ∨ (m.files.after (x.log.flatMap seen)).isFolder outer = true := by
  rcases h.log_cases with ⟨-, hlog⟩ | ⟨hready, later, hlog, -⟩
  · obtain ⟨event, hevent, hclone⟩ := hissued
    rw [hlog] at hevent
    rw [isClone_of_mem_folders hevent] at hclone
    cases hclone
  · refine (isFolder_of_madeAround houter hready).imp_right fun hfolder => ?_
    rw [hlog, attempted, preparation]
    simp only [List.flatMap_append, List.append_assoc]
    rw [seen_folders, FileSystem.after_append]
    exact (FileSystem.within_after _ _).isFolder hfolder

theorem harmless (hclone : ¬ HasClone m.files path) (hfree : Free m.files path) :
    Harmless m path x where
  parents _ hp := CachePath.mem_madeAround (h.mem_madeAround hp)
  ready _ houter hfolder := ready_of_log houter hfolder fun _ => h.mem_madeAround
  surrounded _ houter hissued := h.surrounded houter hissued
  free _ _ _ := ⟨hclone, hfree⟩
  once := by
    rw [h.countP_eq]
    split <;> decide
  untouched := FileSystem.within_after _ _
  added _ _ := FileSystem.entryAt?_of_after

end Cloning

theorem makeClone_of_used {e : Fault} (h : requireUnused m.files path = .error e)
    (remote : String) : git.shell.makeClone m path remote mainBranch past = ⟨[], .error e⟩ := by
  unfold Shell.makeClone
  rw [h]
  rfl

end CachePath
end ReleaseAudit

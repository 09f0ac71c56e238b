import ReleaseAudit.Git.Command
import Mathlib.Logic.Relation

/-! Making folders: nothing that is in a tree gets lost, and only what was missing is made. -/
namespace ReleaseAudit
namespace FileSystem

/-- All that is in the one tree is in the other, unchanged. -/
def Within (fs more : FileSystem) : Prop :=
  ∀ place e, fs.entryAt? place = some e → more.entryAt? place = some e

variable {fs more most : FileSystem} {p : Path} {place : Place}

theorem Within.refl (fs : FileSystem) : fs.Within fs := fun _ _ h => h

theorem Within.trans (h : fs.Within more) (k : more.Within most) : fs.Within most :=
  fun place e he => k place e (h place e he)

theorem within_add (h : fs.entryAt? place = none) (e : Entry) : fs.Within (fs.add place e) := by
  intro other e' he'
  have hne : other ≠ place := by
    rintro rfl
    rw [h] at he'
    cases he'
  rw [entryAt?_add_of_ne hne]
  exact he'

theorem Within.walk_eq_ok (h : fs.Within more) {names : List String} {goal : Place}
    (hwalk : fs.walk place names = .ok goal) : more.walk place names = .ok goal := by
  induction names generalizing place with
  | nil => exact hwalk
  | cons name names ih =>
    rw [walk] at hwalk ⊢
    obtain ⟨_, hfolder, hwalk⟩ := bind_eq_ok.mp hwalk
    obtain ⟨next, hnext, hwalk⟩ := bind_eq_ok.mp hwalk
    have hfolder' : more.requireFolder place = .ok () := by
      unfold requireFolder at hfolder ⊢
      cases hentry : fs.entryAt? place with
      | none => simp [hentry] at hfolder
      | some e =>
        rw [h place e hentry]
        simpa [hentry] using hfolder
    rw [hfolder', ok_bind, hnext]
    exact ih hwalk

theorem Within.locate_eq_ok (h : fs.Within more) (hlocate : fs.locate p = .ok place) :
    more.locate p = .ok place := by
  unfold locate at hlocate ⊢
  split at hlocate
  · cases hlocate
  · next hnul =>
    rw [if_neg hnul]
    split at hlocate
    · cases hlocate
    · next hlong =>
      rw [if_neg hlong]
      split at hlocate
      · cases hlocate
      · next hempty =>
        rw [if_neg hempty]
        exact h.walk_eq_ok hlocate

theorem find_eq_ok {e : Entry} :
    fs.find p = .ok e ↔ ∃ place, fs.locate p = .ok place ∧ fs.entryAt? place = some e := by
  unfold find
  rw [bind_eq_ok]
  refine exists_congr fun place => and_congr_right fun _ => ?_
  cases fs.entryAt? place with
  | none => exact ⟨nofun, nofun⟩
  | some e' => exact ⟨fun h => congrArg some (Except.ok.inj h), fun h => by cases h; rfl⟩

theorem exists?_iff : fs.exists? p = true ↔ ∃ e, fs.find p = .ok e := by
  unfold exists?
  cases fs.find p <;> simp

theorem Within.find_eq_ok (h : fs.Within more) {e : Entry} (hfind : fs.find p = .ok e) :
    more.find p = .ok e := by
  obtain ⟨place, hlocate, hentry⟩ := FileSystem.find_eq_ok.mp hfind
  exact FileSystem.find_eq_ok.mpr ⟨place, h.locate_eq_ok hlocate, h place e hentry⟩

/-- What is missing in the larger tree was missing before. -/
theorem Within.exists?_eq_false (h : fs.Within more) (hmore : more.exists? p = false) :
    fs.exists? p = false := by
  rw [Bool.eq_false_iff]
  intro hfs
  obtain ⟨e, he⟩ := exists?_iff.mp hfs
  rw [exists?_iff.mpr ⟨e, h.find_eq_ok he⟩] at hmore
  cases hmore

theorem isFolder_iff : fs.isFolder p = true ↔ fs.find p = .ok .folder := by
  unfold isFolder
  cases fs.find p with
  | error e => simp
  | ok e => cases e <;> simp

theorem Within.isFolder (h : fs.Within more) (hfolder : fs.isFolder p = true) :
    more.isFolder p = true :=
  isFolder_iff.mpr (h.find_eq_ok (isFolder_iff.mp hfolder))

theorem makeFolder_eq_ok : fs.makeFolder p = .ok more ↔
    ∃ place, fs.locate p = .ok place ∧ fs.entryAt? place = none ∧ more = fs.add place .folder := by
  unfold makeFolder
  rw [bind_eq_ok]
  refine exists_congr fun place => and_congr_right fun _ => ?_
  cases fs.entryAt? place with
  | none => exact ⟨fun h => ⟨rfl, (Except.ok.inj h).symm⟩, fun h => h.2 ▸ rfl⟩
  | some e => exact ⟨nofun, nofun⟩

section Made

variable (h : fs.makeFolder p = .ok more)
include h

theorem within_makeFolder : fs.Within more := by
  obtain ⟨place, -, hnone, rfl⟩ := makeFolder_eq_ok.mp h
  exact within_add hnone _

theorem exists?_of_makeFolder : fs.exists? p = false := by
  obtain ⟨place, hlocate, hnone, -⟩ := makeFolder_eq_ok.mp h
  rw [Bool.eq_false_iff, Ne, exists?_iff]
  rintro ⟨e, he⟩
  obtain ⟨place', hlocate', he⟩ := find_eq_ok.mp he
  rw [hlocate] at hlocate'
  cases hlocate'
  rw [hnone] at he
  cases he

theorem isFolder_of_makeFolder : more.isFolder p = true := by
  have hwithin := within_makeFolder h
  obtain ⟨place, hlocate, hnone, rfl⟩ := makeFolder_eq_ok.mp h
  have hplace : place ≠ [] := by
    rintro rfl
    rw [entryAt?_root] at hnone
    cases hnone
  exact isFolder_iff.mpr
    (find_eq_ok.mpr ⟨place, hwithin.locate_eq_ok hlocate, entryAt?_add_self hplace _⟩)

end Made

theorem after_append (fs : FileSystem) (effects more : List Effect) :
    fs.after (effects ++ more) = (fs.after effects).after more := by
  induction effects generalizing fs with
  | nil => rfl
  | cons effect effects ih =>
    cases effect with
    | madeFolder p =>
      rw [List.cons_append, after, after]
      cases fs.makeFolder p <;> exact ih _
    | said _ | noted _ | ran _ => exact ih fs

/-- Whatever a run does, what was there before is there afterwards. -/
theorem within_after (fs : FileSystem) (effects : List Effect) : fs.Within (fs.after effects) := by
  induction effects generalizing fs with
  | nil => exact .refl fs
  | cons effect effects ih =>
    cases effect with
    | madeFolder p =>
      rw [after]
      cases hmade : fs.makeFolder p with
      | error e => exact ih fs
      | ok more => exact (within_makeFolder hmade).trans (ih more)
    | said _ | noted _ | ran _ => exact ih fs

/-- Nothing but folders comes about. -/
theorem entryAt?_of_after {effects : List Effect} {place : Place} {e : Entry}
    (h : (fs.after effects).entryAt? place = some e) :
    fs.entryAt? place = some e ∨ fs.entryAt? place = none ∧ e = .folder := by
  induction effects generalizing fs with
  | nil => exact .inl h
  | cons effect effects ih =>
    cases effect with
    | madeFolder p =>
      rw [after] at h
      cases hmade : fs.makeFolder p with
      | error fault =>
        rw [hmade] at h
        exact ih h
      | ok more =>
        rw [hmade] at h
        obtain ⟨made, -, hnone, rfl⟩ := makeFolder_eq_ok.mp hmade
        -- What is at the place of the new folder later on is this folder, as it is never replaced.
        by_cases hplace : place = made
        · subst hplace
          have hne : place ≠ [] := by
            rintro rfl
            cases hnone
          have ih := ih h
          rw [entryAt?_add_self hne] at ih
          rcases ih with hfolder | ⟨hfolder, -⟩
          · exact .inr ⟨hnone, (Option.some.inj hfolder).symm⟩
          · cases hfolder
        · have ih := ih h
          rwa [entryAt?_add_of_ne hplace] at ih
    | said _ | noted _ | ran _ => exact ih h

def IsParent (outer inner : Path) : Prop := inner.parent = some outer

/-- What making a folder and those around it comes to: `made` were missing on the way to it, and
after a success the folder is there. -/
structure Makes (fs : FileSystem) (p : Path) (made : List Path)
    (result : Except SystemError FileSystem) : Prop where
  missing : ∀ q ∈ made, Relation.ReflTransGen IsParent q p ∧ fs.exists? q = false
  within : ∀ more, result = .ok more → fs.Within more
  after : ∀ more, result = .ok more → fs.after (made.map .madeFolder) = more
  isFolder : ∀ more, result = .ok more → p.text = "" ∨ more.isFolder p = true

theorem Makes.nothing {result : Except SystemError FileSystem}
    (h : ∀ more, result = .ok more → more = fs ∧ (p.text = "" ∨ fs.isFolder p = true)) :
    Makes fs p [] result where
  missing := by simp
  within more hmore := (h more hmore).1 ▸ .refl fs
  after more hmore := (h more hmore).1.symm
  isFolder more hmore := by
    obtain ⟨rfl, hfolder⟩ := h more hmore
    exact hfolder

theorem Makes.one (h : fs.makeFolder p = .ok more) : Makes fs p [p] (.ok more) where
  missing q hq := by
    rw [List.mem_singleton.mp hq]
    exact ⟨.refl, exists?_of_makeFolder h⟩
  within _ hmore := Except.ok.inj hmore ▸ within_makeFolder h
  after _ hmore := by
    simp only [List.map_cons, List.map_nil, FileSystem.after, h]
    exact Except.ok.inj hmore
  isFolder _ hmore := .inr (Except.ok.inj hmore ▸ isFolder_of_makeFolder h)

section Outer

variable {outer : Path} {made : List Path} (houter : p.parent = some outer)
include houter

theorem Makes.stopped {e : SystemError} (h : Makes fs outer made (.error e)) :
    Makes fs p made (.error e) where
  missing q hq := ⟨(h.missing q hq).1.tail houter, (h.missing q hq).2⟩
  within := nofun
  after := nofun
  isFolder := nofun

variable (h : Makes fs outer made (.ok more))
include h

theorem Makes.present {e : SystemError} : Makes fs p made
    (if more.isFolder p = true then .ok more else .error e) where
  missing q hq := ⟨(h.missing q hq).1.tail houter, (h.missing q hq).2⟩
  within _ hmore := by
    split at hmore
    · exact Except.ok.inj hmore ▸ h.within more rfl
    · cases hmore
  after _ hmore := by
    split at hmore
    · exact (h.after more rfl).trans (Except.ok.inj hmore)
    · cases hmore
  isFolder _ hmore := by
    split at hmore
    · next hfolder => exact .inr (Except.ok.inj hmore ▸ hfolder)
    · cases hmore

theorem Makes.next (hmost : more.makeFolder p = .ok most) :
    Makes fs p (made ++ [p]) (.ok most) where
  missing := by
    have hp := (h.within more rfl).exists?_eq_false (exists?_of_makeFolder hmost)
    refine List.forall_mem_append.mpr ⟨fun q hq => ?_, fun q hq => ?_⟩
    · exact ⟨(h.missing q hq).1.tail houter, (h.missing q hq).2⟩
    · rw [List.mem_singleton.mp hq]
      exact ⟨.refl, hp⟩
  within _ hmore := Except.ok.inj hmore ▸ (h.within more rfl).trans (within_makeFolder hmost)
  after _ hmore := by
    rw [List.map_append, after_append, h.after more rfl]
    exact (Makes.one hmost).after _ hmore
  isFolder _ hmore := .inr (Except.ok.inj hmore ▸ isFolder_of_makeFolder hmost)

end Outer

theorem makes_makeFolders (fuel : Nat) (fs : FileSystem) (p : Path) :
    Makes fs p (fs.makeFolders fuel p).1 (fs.makeFolders fuel p).2 := by
  induction fuel generalizing fs p with
  | zero => exact .nothing nofun
  | succ fuel ih =>
    rw [makeFolders]
    split
    · next hempty => exact .nothing fun more hmore => ⟨(Except.ok.inj hmore).symm, .inl hempty⟩
    · split
      · next hmade => exact .one hmade
      · split
        · exact .nothing nofun
        · next outer houter =>
          have ih := ih fs outer
          split
          · next hrest =>
            rw [hrest] at ih
            exact ih.stopped houter
          · next hrest =>
            rw [hrest] at ih
            split
            · next hmost => exact ih.next houter hmost
            · exact ih.present houter
      · refine .nothing fun more hmore => ?_
        split at hmore
        · next hfolder => exact ⟨(Except.ok.inj hmore).symm, .inr hfolder⟩
        · cases hmore

theorem makeFolders_of_isFolder (fuel : Nat) (h : fs.isFolder p = true) :
    fs.makeFolders (fuel + 1) p = ([], .ok fs) := by
  have hfound : fs.makeFolder p = .error .alreadyExists := by
    obtain ⟨place, hlocate, hentry⟩ := find_eq_ok.mp (isFolder_iff.mp h)
    unfold makeFolder
    rw [hlocate, ok_bind, hentry]
  rw [makeFolders, hfound]
  split <;> rfl

end FileSystem
end ReleaseAudit

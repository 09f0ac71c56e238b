import ReleaseAudit.Timestamp.Reader

/-! The release index: release candidates, newest first, and the component versions they ship. -/
namespace ReleaseAudit

def rcPrefix : List Char := ['r', 'c', '-', '-']

/-- A release candidate's name without its conventional beginning, which is removed once. -/
def stripRcPrefix (name : String) : List Char :=
  if rcPrefix.isPrefixOf name.toList then name.toList.drop rcPrefix.length else name.toList

def Timestamp.ofRcName (name : String) : Except Timestamp.Flaw Timestamp :=
  Timestamp.parse (stripRcPrefix name)

structure Version where
  name : String
  reference : String
  deriving DecidableEq, Repr

/-- The name of the version that every release declares. -/
def baseVersionName : String := "base"

def Version.isBase (v : Version) : Bool := v.name = baseVersionName

theorem Version.isBase_iff {v : Version} : v.isBase = true ↔ v.name = "base" := decide_eq_true_iff

structure Release where
  rcName : String
  timestamp : Timestamp
  versions : List Version
  deriving DecidableEq

namespace Release

/-- The timestamp of a release is the one in its name. -/
def Dated (r : Release) : Prop := Timestamp.ofRcName r.rcName = .ok r.timestamp

def ofName (rcName : String) (versions : List Version) : Except Timestamp.Flaw Release :=
  (Timestamp.ofRcName rcName).map fun t => ⟨rcName, t, versions⟩

theorem dated_of_ofName {rcName : String} {versions : List Version} {r : Release}
    (h : ofName rcName versions = .ok r) : r.Dated := by
  unfold ofName at h
  cases ht : Timestamp.ofRcName rcName with
  | error e => simp [ht, Except.map] at h
  | ok t =>
    simp only [ht, Except.map, Except.ok.injEq] at h
    subst h
    exact ht

/-- The tag that a version of this release is expected to carry. -/
def tagName (r : Release) (v : Version) : String :=
  "release-" ++ String.ofList (stripRcPrefix r.rcName) ++ "-" ++ v.name

end Release

structure ReleaseIndex where
  releases : List Release
  deriving DecidableEq

namespace ReleaseIndex

def empty : ReleaseIndex := ⟨[]⟩

/-- Every version with its release, in the order of the document. -/
def versions (index : ReleaseIndex) : List (Release × Version) :=
  index.releases.flatMap fun r => r.versions.map fun v => (r, v)

theorem mem_versions {index : ReleaseIndex} {p : Release × Version} :
    p ∈ index.versions ↔ p.1 ∈ index.releases ∧ p.2 ∈ p.1.versions := by
  simp only [versions, List.mem_flatMap, List.mem_map]
  constructor
  · rintro ⟨r, hr, v, hv, rfl⟩
    exact ⟨hr, hv⟩
  · rintro ⟨hr, hv⟩
    exact ⟨p.1, hr, p.2, hv, rfl⟩

def versionCount (index : ReleaseIndex) : Nat :=
  index.releases.foldr (fun r n => r.versions.length + n) 0

theorem length_versions (index : ReleaseIndex) : index.versions.length = index.versionCount := by
  simp only [versions, versionCount]
  induction index.releases with
  | nil => rfl
  | cons r rs ih => simp [ih]

end ReleaseIndex

/-- The first occurrence of each element, in order. -/
def firstOccurrences {α : Type} [DecidableEq α] : List α → List α
  | [] => []
  | x :: xs => x :: (firstOccurrences xs).filter (· ≠ x)

theorem mem_firstOccurrences {α : Type} [DecidableEq α] {x : α} {xs : List α} :
    x ∈ firstOccurrences xs ↔ x ∈ xs := by
  induction xs with
  | nil => simp [firstOccurrences]
  | cons y ys ih =>
    by_cases h : x = y <;> simp [firstOccurrences, ih, h]

theorem nodup_firstOccurrences {α : Type} [DecidableEq α] (xs : List α) :
    (firstOccurrences xs).Nodup := by
  induction xs with
  | nil => simp [firstOccurrences]
  | cons y ys ih =>
    simp only [firstOccurrences, List.nodup_cons]
    exact ⟨by simp, ih.filter _⟩

theorem pairwise_idxOf_firstOccurrences {α : Type} [DecidableEq α] (xs : List α) :
    (firstOccurrences xs).Pairwise fun a b => xs.idxOf a < xs.idxOf b := by
  induction xs with
  | nil => simp [firstOccurrences]
  | cons y ys ih =>
    have hlater : ∀ x ∈ (firstOccurrences ys).filter (· ≠ y),
        (y :: ys).idxOf x = ys.idxOf x + 1 := by
      intro x hx
      have hne : x ≠ y := by simpa using (List.mem_filter.mp hx).2
      rw [List.idxOf_cons, beq_false_of_ne hne.symm, cond_false]
    refine List.pairwise_cons.mpr ⟨fun x hx => ?_, (ih.filter _).imp_of_mem fun ha hb hab => ?_⟩
    · rw [hlater x hx, List.idxOf_cons_self]
      omega
    · rw [hlater _ ha, hlater _ hb]
      omega

def ReleaseIndex.rcNames (index : ReleaseIndex) : List String :=
  firstOccurrences (index.releases.map (·.rcName))

end ReleaseAudit

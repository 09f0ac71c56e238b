import ReleaseAudit.Traced

/-! What the checks need of a repository: bringing it up to date, making branches visible, and
resolving references to commits. -/
namespace ReleaseAudit

/-- A finite set of branch names, listed in strictly ascending order. -/
structure BranchSet where
  names : List String
  ascending : names.Pairwise (· < ·)
  deriving DecidableEq

namespace BranchSet

def empty : BranchSet := ⟨[], .nil⟩

def insertName (b : String) : List String → List String
  | [] => [b]
  | c :: cs => if b < c then b :: c :: cs else if b = c then c :: cs else c :: insertName b cs

theorem mem_insertName {b x : String} {cs : List String} :
    x ∈ insertName b cs ↔ x = b ∨ x ∈ cs := by
  induction cs with
  | nil => simp [insertName]
  | cons c cs ih =>
    simp only [insertName]
    split
    · simp
    · split
      · next h => subst h; simp
      · simp only [List.mem_cons, ih]
        exact or_left_comm

theorem pairwise_insertName {b : String} {cs : List String} (h : cs.Pairwise (· < ·)) :
    (insertName b cs).Pairwise (· < ·) := by
  induction cs with
  | nil => simp [insertName]
  | cons c cs ih =>
    have hc := List.pairwise_cons.mp h
    simp only [insertName]
    split
    · next hb =>
      refine List.pairwise_cons.mpr ⟨fun x hx => ?_, h⟩
      rcases List.mem_cons.mp hx with rfl | hx
      · exact hb
      · exact String.lt_trans hb (hc.1 x hx)
    · split
      · exact h
      · next hb hne =>
        refine List.pairwise_cons.mpr ⟨fun x hx => ?_, ih hc.2⟩
        rcases mem_insertName.mp hx with rfl | hx
        · exact Std.lt_of_le_of_ne hb (Ne.symm hne)
        · exact hc.1 x hx

def insert (b : String) (s : BranchSet) : BranchSet :=
  ⟨insertName b s.names, pairwise_insertName s.ascending⟩

def ofList (names : List String) : BranchSet := names.foldr insert empty

/-- A set is known by its elements. -/
theorem eq_of_mem_iff {s t : BranchSet} (h : ∀ x, x ∈ s.names ↔ x ∈ t.names) : s = t := by
  have hperm : s.names.Perm t.names :=
    (List.perm_ext_iff_of_nodup (s.ascending.imp fun hab => String.ne_of_lt hab)
      (t.ascending.imp fun hab => String.ne_of_lt hab)).mpr h
  have hnames : s.names = t.names :=
    hperm.eq_of_pairwise (fun a b _ _ hab hba => absurd hab (String.lt_asymm hba)) s.ascending
      t.ascending
  cases s
  cases t
  simpa using hnames

theorem mem_ofList {x : String} {names : List String} : x ∈ (ofList names).names ↔ x ∈ names := by
  induction names with
  | nil => simp [ofList, empty]
  | cons b bs ih => simpa [ofList, insert, mem_insertName] using or_congr_right ih

end BranchSet

structure Commit where
  sha : String
  branches : BranchSet
  deriving DecidableEq

def Commit.isOnBranch (c : Commit) (branch : String) : Bool := c.branches.names.contains branch

/-- Access to a repository. Asking a question is a computation of `m`. -/
structure Access (m : Type → Type) where
  /-- Brings the local copy up to date. -/
  fetch : m Unit
  /-- Makes branches of the remote visible; fails if one is missing there. -/
  ensureBranches : List String → m Unit
  /-- The commit that a reference names; `none` if it names none. -/
  lookUp : String → m (Option Commit)

abbrev Repository (ε : Type) := Access (Traced ε)

inductive Call where
  | fetch
  | ensureBranches (names : List String)
  | lookUp (reference : String)
  deriving DecidableEq, Repr

/-- A repository whose answers depend on nothing but the question. -/
structure Accessor where
  fetch : Except Fault Unit
  ensureBranches : List String → Except Fault Unit
  lookUp : String → Except Fault (Option Commit)

/-- Access to the accessor that records every question. -/
def Accessor.traced {ε : Type} (record : Call → ε) (a : Accessor) : Repository ε where
  fetch := .step (record .fetch) a.fetch
  ensureBranches names := .step (record (.ensureBranches names)) (a.ensureBranches names)
  lookUp reference := .step (record (.lookUp reference)) (a.lookUp reference)

end ReleaseAudit

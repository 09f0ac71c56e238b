/-! Sets of characters, kept as runs of code points in order and apart from each other. -/
namespace ReleaseAudit

/-- A set of characters: the first and the last code point of each of its runs. -/
structure CharSet where
  runs : List (Nat × Nat)
  deriving DecidableEq, Repr

namespace CharSet

def empty : CharSet := ⟨[]⟩

def inRuns (runs : List (Nat × Nat)) (n : Nat) : Bool := runs.any fun r => r.1 ≤ n && n ≤ r.2

def contains (s : CharSet) (c : Char) : Bool := inRuns s.runs c.toNat

/-- Runs with one more, which is joined with those that it touches. -/
def insertRun (r : Nat × Nat) : List (Nat × Nat) → List (Nat × Nat)
  | [] => [r]
  | s :: rest =>
    if r.2 + 1 < s.1 then r :: s :: rest
    else if s.2 + 1 < r.1 then s :: insertRun r rest
    else insertRun (min r.1 s.1, max r.2 s.2) rest

theorem inRuns_insertRun {r : Nat × Nat} (h : r.1 ≤ r.2) {runs : List (Nat × Nat)}
    (hs : ∀ s ∈ runs, s.1 ≤ s.2) (n : Nat) :
    inRuns (insertRun r runs) n = (inRuns [r] n || inRuns runs n) := by
  induction runs generalizing r with
  | nil => simp [insertRun, inRuns]
  | cons s rest ih =>
    have hs₁ := hs s (by simp)
    have hrest : ∀ s ∈ rest, s.1 ≤ s.2 := fun s hm => hs s (by simp [hm])
    simp only [insertRun]
    split
    · simp [inRuns]
    · split
      · have e := ih h hrest
        simp only [inRuns, List.any_cons, List.any_nil, Bool.or_false] at e ⊢
        rw [e]
        ac_rfl
      · next h₁ h₂ =>
        have e := @ih (min r.1 s.1, max r.2 s.2) (by simp; omega) hrest
        rw [e]
        simp only [inRuns, List.any_cons, List.any_nil, Bool.or_false]
        rw [← Bool.or_assoc]
        congr 1
        rw [Bool.eq_iff_iff]
        simp only [Bool.or_eq_true, Bool.and_eq_true, decide_eq_true_eq]
        omega

def ofRuns (runs : List (Nat × Nat)) : CharSet := ⟨runs.foldl (fun s r => insertRun r s) []⟩

def single (c : Char) : CharSet := ⟨[(c.toNat, c.toNat)]⟩

def ofChars (cs : List Char) : CharSet := ofRuns (cs.map fun c => (c.toNat, c.toNat))

def union (a b : CharSet) : CharSet := ⟨b.runs.foldl (fun s r => insertRun r s) a.runs⟩

def lastCode : Nat := 0x10ffff

def gaps (start : Nat) : List (Nat × Nat) → List (Nat × Nat)
  | [] => if start ≤ lastCode then [(start, lastCode)] else []
  | r :: rest =>
    if start < r.1 then (start, r.1 - 1) :: gaps (r.2 + 1) rest else gaps (r.2 + 1) rest

def complement (s : CharSet) : CharSet := ⟨gaps 0 s.runs⟩

def inter (a b : CharSet) : CharSet := (a.complement.union b.complement).complement

def diff (a b : CharSet) : CharSet := a.inter b.complement

def symmetricDiff (a b : CharSet) : CharSet := (a.diff b).union (b.diff a)

def all : CharSet := ⟨[(0, lastCode)]⟩

/-- The first characters, which one byte of UTF-8 holds. -/
def ascii : CharSet := ⟨[(0, 0x7f)]⟩

end CharSet
end ReleaseAudit

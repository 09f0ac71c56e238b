/-! The Unicode property White_Space, and texts with the blanks at their ends removed. -/
namespace ReleaseAudit
namespace Text

/-- First and last code point of each run of White_Space characters. -/
def blankRuns : List (Nat × Nat) :=
  [(0x09, 0x0d), (0x20, 0x20), (0x85, 0x85), (0xa0, 0xa0), (0x1680, 0x1680), (0x2000, 0x200a),
    (0x2028, 0x2029), (0x202f, 0x202f), (0x205f, 0x205f), (0x3000, 0x3000)]

def isBlank (c : Char) : Bool :=
  blankRuns.any fun run => run.1 ≤ c.toNat && c.toNat ≤ run.2

/-- Every character that the standard library calls white space is blank. -/
theorem isBlank_of_isWhitespace {c : Char} (h : c.isWhitespace = true) : isBlank c = true := by
  simp only [Char.isWhitespace, Bool.or_eq_true, decide_eq_true_eq] at h
  rcases h with ((h | h) | h) | h <;> subst h <;> decide

def trimStart (cs : List Char) : List Char := cs.dropWhile isBlank

def trimEnd (cs : List Char) : List Char := (cs.reverse.dropWhile isBlank).reverse

@[simp] theorem trimStart_nil : trimStart [] = [] := rfl

@[simp] theorem trimEnd_nil : trimEnd [] = [] := rfl

/-- The text between the blanks at both of its ends. -/
def trim (s : String) : String := String.ofList (trimEnd (trimStart s.toList))

theorem dropWhile_of_noBlank {cs : List Char} (h : ∀ c ∈ cs, isBlank c = false) :
    cs.dropWhile isBlank = cs := by
  cases cs with
  | nil => rfl
  | cons c cs => simp [h c (by simp)]

theorem trim_of_noBlank {s : String} (h : ∀ c ∈ s.toList, isBlank c = false) : trim s = s := by
  have hreverse : ∀ c ∈ s.toList.reverse, isBlank c = false := by simpa using h
  rw [trim, trimStart, dropWhile_of_noBlank h, trimEnd, dropWhile_of_noBlank hreverse,
    List.reverse_reverse, String.ofList_toList]

theorem trim_append_lineFeed {s : String} (hne : s ≠ "") (h : ∀ c ∈ s.toList, isBlank c = false) :
    trim (s ++ "\n") = s := by
  have hstart : trimStart (s ++ "\n").toList = s.toList ++ ['\n'] := by
    obtain ⟨c, cs, hs⟩ := List.exists_cons_of_ne_nil (by simpa using hne : s.toList ≠ [])
    have hc : isBlank c = false := h c (by simp [hs])
    simp [trimStart, hs, hc]
  have hend : trimEnd (s.toList ++ ['\n']) = s.toList := by
    have hblank : isBlank '\n' = true := by decide
    have hreverse : ∀ c ∈ s.toList.reverse, isBlank c = false := by simpa using h
    rw [trimEnd, List.reverse_append, List.reverse_singleton, List.singleton_append,
      List.dropWhile_cons_of_pos hblank, dropWhile_of_noBlank hreverse, List.reverse_reverse]
  rw [trim, hstart, hend, String.ofList_toList]

def isAllBlank (s : String) : Bool := s.toList.all isBlank

end Text
end ReleaseAudit

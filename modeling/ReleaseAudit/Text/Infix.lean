/-! Whether one text occurs inside another, and what a joined text begins with. -/
namespace ReleaseAudit
namespace Text

def occursIn (needle : List Char) : List Char → Bool
  | [] => needle.isEmpty
  | c :: cs => needle.isPrefixOf (c :: cs) || occursIn needle cs

/-- A text occurs in another exactly when the other can be cut around it. -/
theorem occursIn_iff {needle cs : List Char} :
    occursIn needle cs = true ↔ ∃ before after, cs = before ++ needle ++ after := by
  induction cs with
  | nil =>
    simp only [occursIn, List.isEmpty_iff]
    constructor
    · rintro rfl
      exact ⟨[], [], rfl⟩
    · rintro ⟨before, after, h⟩
      have := congrArg List.length h
      simp only [List.length_nil, List.length_append] at this
      exact List.eq_nil_of_length_eq_zero (by omega)
  | cons c cs ih =>
    simp only [occursIn, Bool.or_eq_true, ih, List.isPrefixOf_iff_prefix]
    constructor
    · rintro (⟨after, h⟩ | ⟨before, after, h⟩)
      · exact ⟨[], after, by simp [h]⟩
      · exact ⟨c :: before, after, by simp [h]⟩
    · rintro ⟨before, after, h⟩
      cases before with
      | nil => exact Or.inl ⟨after, by simpa using h.symm⟩
      | cons b before =>
        simp only [List.cons_append, List.cons.injEq] at h
        exact Or.inr ⟨before, after, h.2⟩

def contains (s part : String) : Bool := occursIn part.toList s.toList

theorem head?_append {s : String} (hs : s ≠ "") (t : String) :
    (s ++ t).toList.head? = s.toList.head? := by
  cases h : s.toList with
  | nil => exact absurd (by simpa using h) hs
  | cons c cs =>
    rw [String.toList_append, h]
    rfl

end Text
end ReleaseAudit

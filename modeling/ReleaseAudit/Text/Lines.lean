/-! A text cut at its line feeds. -/
namespace ReleaseAudit
namespace Text

/-- The pieces between line feeds; a text without one is a single piece. -/
def lines (s : String) : List String :=
  (s.toList.splitOn '\n').map String.ofList

def unlines (ls : List String) : String := String.join (ls.map (· ++ "\n"))

@[simp] theorem unlines_nil : unlines [] = "" := rfl

@[simp] theorem unlines_cons (l : String) (ls : List String) :
    unlines (l :: ls) = l ++ "\n" ++ unlines ls := by
  simp [unlines]

/-- Joined lines are cut into themselves and the empty text after the last line feed. -/
theorem lines_unlines {ls : List String} (h : ∀ l ∈ ls, '\n' ∉ l.toList) :
    lines (unlines ls) = ls ++ [""] := by
  induction ls with
  | nil => rfl
  | cons l ls ih =>
    have ih := ih fun k hk => h k (by simp [hk])
    unfold lines at ih ⊢
    have htext : (unlines (l :: ls)).toList = l.toList ++ '\n' :: (unlines ls).toList := by
      simp
    rw [htext, List.splitOn_append_cons_self_of_not_mem (h l (by simp)), List.map_cons, ih,
      String.ofList_toList, List.cons_append]

end Text
end ReleaseAudit

import ReleaseAudit.Release
import ReleaseAudit.Traced
import Mathlib.Data.List.TakeWhile

/-! The characters that can stand in the name of a release candidate whose timestamp can be read. -/
namespace ReleaseAudit
namespace Alphabet

/-- A digit, a sign, a blank or a separator. -/
def isStampChar (c : Char) : Bool :=
  Decimal.isDigit c || Text.isBlank c || c = '-' || c = '+' || c = '_'

/-- A reader that stops before `rest` has passed over nothing but such characters. -/
def Passes (cs rest : List Char) : Prop :=
  ∃ taken, cs = taken ++ rest ∧ ∀ c ∈ taken, isStampChar c = true

theorem Passes.trans {cs ds es : List Char} (h : Passes cs ds) (k : Passes ds es) :
    Passes cs es := by
  obtain ⟨l, rfl, hl⟩ := h
  obtain ⟨m, rfl, hm⟩ := k
  exact ⟨l ++ m, (List.append_assoc _ _ _).symm, List.forall_mem_append.mpr ⟨hl, hm⟩⟩

theorem Passes.cons {c : Char} (hc : isStampChar c = true) (cs : List Char) : Passes (c :: cs) cs :=
  ⟨[c], rfl, by simpa using hc⟩

theorem passes_trimStart (cs : List Char) : Passes cs (Text.trimStart cs) := by
  refine ⟨cs.takeWhile Text.isBlank, List.takeWhile_append_dropWhile.symm, fun c hc => ?_⟩
  have hblank := List.mem_takeWhile_imp hc
  simp [isStampChar, hblank]

variable {cs rest : List Char}

theorem passes_drop_digits {window : List Char} (h : window <+: cs) :
    Passes cs (cs.drop (window.takeWhile Decimal.isDigit).length) := by
  have hds : window.takeWhile Decimal.isDigit <+: cs := (List.takeWhile_prefix _).trans h
  refine ⟨window.takeWhile Decimal.isDigit, ?_, fun c hc => ?_⟩
  · obtain ⟨tail, htail⟩ := hds
    rw [← htail, List.drop_left]
  · have hdigit := List.mem_takeWhile_imp hc
    simp [isStampChar, hdigit]

theorem passes_readNumber {width : Option Nat} {n : Nat}
    (h : Timestamp.readNumber width cs = .ok (n, rest)) : Passes cs rest := by
  unfold Timestamp.readNumber at h
  cases width with
  | none =>
    dsimp only at h
    split at h
    · cases h
    · cases h
      exact passes_drop_digits List.prefix_rfl
  | some w =>
    dsimp only at h
    split at h
    · cases h
    · cases h
      exact passes_drop_digits (List.take_prefix w cs)

theorem passes_readField {low high n : Nat}
    (h : Timestamp.readField low high cs = .ok (n, rest)) : Passes cs rest := by
  obtain ⟨⟨k, after⟩, hk, h⟩ := bind_eq_ok.mp h
  dsimp only at h
  split at h
  · cases h
    exact (passes_trimStart cs).trans (passes_readNumber hk)
  · cases h

theorem passes_readLiteral {c : Char} (hc : isStampChar c = true)
    (h : Timestamp.readLiteral c cs = .ok rest) : Passes cs rest := by
  cases cs with
  | nil => cases h
  | cons d ds =>
    rw [Timestamp.readLiteral] at h
    split at h
    · next hd =>
      cases h
      exact .cons (hd ▸ hc) _
    · cases h

theorem passes_readYear {year : Int} (h : Timestamp.readYear cs = .ok (year, rest)) :
    Passes cs rest := by
  refine (passes_trimStart cs).trans ?_
  unfold Timestamp.readYear at h
  split at h
  · next tail heq =>
    obtain ⟨⟨n, after⟩, hn, h⟩ := bind_eq_ok.mp h
    dsimp only at h
    split at h
    · cases h
      exact heq ▸ (Passes.cons rfl tail).trans (passes_readNumber hn)
    · cases h
  · next tail heq =>
    obtain ⟨⟨n, after⟩, hn, h⟩ := bind_eq_ok.mp h
    dsimp only at h
    split at h
    · cases h
      exact heq ▸ (Passes.cons rfl tail).trans (passes_readNumber hn)
    · cases h
  · obtain ⟨⟨n, after⟩, hn, h⟩ := bind_eq_ok.mp h
    cases h
    exact passes_readNumber hn

theorem passes_readMinute {m : Minute} (h : Timestamp.readMinute cs = .ok (m, rest)) :
    Passes cs rest := by
  obtain ⟨⟨_, cs₁⟩, h₁, h⟩ := bind_eq_ok.mp h
  obtain ⟨cs₂, h₂, h⟩ := bind_eq_ok.mp h
  obtain ⟨⟨_, cs₃⟩, h₃, h⟩ := bind_eq_ok.mp h
  obtain ⟨cs₄, h₄, h⟩ := bind_eq_ok.mp h
  obtain ⟨⟨_, cs₅⟩, h₅, h⟩ := bind_eq_ok.mp h
  obtain ⟨cs₆, h₆, h⟩ := bind_eq_ok.mp h
  obtain ⟨⟨_, cs₇⟩, h₇, h⟩ := bind_eq_ok.mp h
  obtain ⟨cs₈, h₈, h⟩ := bind_eq_ok.mp h
  obtain ⟨⟨_, cs₉⟩, h₉, h⟩ := bind_eq_ok.mp h
  cases h
  have hdate : Passes cs cs₅ := (passes_readYear h₁).trans <| (passes_readLiteral rfl h₂).trans <|
    (passes_readField h₃).trans <| (passes_readLiteral rfl h₄).trans (passes_readField h₅)
  exact hdate.trans <| (passes_readLiteral rfl h₆).trans <| (passes_readField h₇).trans <|
    (passes_readLiteral rfl h₈).trans (passes_readField h₉)

theorem isStampChar_of_parse {t : Timestamp} (h : Timestamp.parse cs = .ok t) :
    ∀ c ∈ cs, isStampChar c = true := by
  obtain ⟨⟨m, rest⟩, hm, h⟩ := bind_eq_ok.mp h
  dsimp only at h
  split at h
  · next hrest =>
    obtain ⟨taken, htaken, hall⟩ := passes_readMinute hm
    rw [List.isEmpty_iff.mp hrest, List.append_nil] at htaken
    exact htaken ▸ hall
  · cases h

/-- Apart from the conventional beginning, there is nothing in the name of a dated release but
digits, signs, blanks and separators. -/
theorem mem_rcName {r : Release} (h : r.Dated) {c : Char} (hc : c ∈ r.rcName.toList) :
    c ∈ rcPrefix ∨ isStampChar c = true := by
  have hall := isStampChar_of_parse h
  unfold stripRcPrefix at hall
  split at hall
  · next hprefix =>
    obtain ⟨tail, htail⟩ := List.isPrefixOf_iff_prefix.mp hprefix
    rw [← htail, List.drop_left] at hall
    rw [← htail] at hc
    exact (List.mem_append.mp hc).imp_right (hall c)
  · exact .inr (hall c hc)

theorem colon_notMem_rcName {r : Release} (h : r.Dated) : ':' ∉ r.rcName.toList := by
  intro hc
  rcases mem_rcName h hc with hc | hc
  · exact absurd hc (by decide)
  · exact absurd hc (by decide)

end Alphabet
end ReleaseAudit

import ReleaseAudit.Proofs.ShippedSchema
import ReleaseAudit.Proofs.Stamp
import Mathlib.Data.List.Forall2

/-! The names that the pattern of the shipped schema admits. A pattern that goes through a row of
characters, one set after the other, leads from a place to one place at most. -/
namespace ReleaseAudit
namespace Pattern

def Place.row? (sets : List CharSet) (s : Place) : Option Place :=
  sets.foldlM (fun s set => s.step? set) s

/-- A pattern that takes one character from each set and has no other way to go. -/
def IsRow (p : Pattern) (sets : List CharSet) : Prop :=
  ∀ o : Option Place, p.ends o.toList = (o.bind (Place.row? sets)).toList

theorem isRow_one (set : CharSet) : IsRow (.one set) [set] := by
  intro o
  cases o with
  | none => rfl
  | some s => cases h : s.step? set <;> simp [ends, Place.row?, h]

theorem iterate_row {p : Pattern} {sets : List CharSet} (h : IsRow p sets) (n : Nat)
    (o : Option Place) :
    iterate p.ends n o.toList = (o.bind (Place.row? (List.replicate n sets).flatten)).toList := by
  induction n generalizing o with
  | zero => cases o <;> rfl
  | succ n ih =>
    cases o with
    | none => rfl
    | some s =>
      have hrow : Place.row? (List.replicate (n + 1) sets).flatten s =
          (Place.row? sets s).bind (Place.row? (List.replicate n sets).flatten) := by
        simp only [Place.row?, List.replicate_succ, List.flatten_cons, List.foldlM_append]
        rfl
      have hfirst : p.ends [s] = (Place.row? sets s).toList := h (some s)
      simp only [iterate, Option.toList_some, List.isEmpty_cons, Bool.false_eq_true, if_false,
        hfirst, ih, Option.bind_some, hrow]

theorem isRow_times {p : Pattern} {sets : List CharSet} (h : IsRow p sets) (n : Nat)
    (isGreedy : Bool) : IsRow (.times n (some n) isGreedy p) (List.replicate n sets).flatten := by
  intro o
  simp [ends, iterate_row h]

theorem foldl_ends_row {ps : List Pattern} {rows : List (List CharSet)}
    (h : List.Forall₂ IsRow ps rows) (o : Option Place) :
    ps.foldl (fun ss p => p.ends ss) o.toList = (o.bind (Place.row? rows.flatten)).toList := by
  induction h generalizing o with
  | nil => cases o <;> rfl
  | @cons p row ps rows hp _ ih =>
    rw [List.foldl_cons, hp, ih]
    cases o with
    | none => rfl
    | some s =>
      simp only [Place.row?, List.flatten_cons, List.foldlM_append, Option.bind_some]
      rfl

theorem finishes_row (sets : List CharSet) (s : Place) :
    (∃ t, Place.row? sets s = some t ∧ t.after = []) ↔
      List.Forall₂ (fun set c => set.contains c = true) sets s.after := by
  induction sets generalizing s with
  | nil => simp [Place.row?]
  | cons set sets ih =>
    have hrow : Place.row? (set :: sets) s = (s.step? set).bind (Place.row? sets) := by
      simp only [Place.row?, List.foldlM_cons]
      rfl
    rw [hrow]
    cases hafter : s.after with
    | nil => simp [Place.step?, Place.next?, hafter]
    | cons c cs =>
      by_cases hc : set.contains c = true
      · have hstep : s.step? set = some ⟨c :: s.before, cs, s.position + 1⟩ := by
          simp [Place.step?, Place.next?, hafter, hc]
        rw [hstep, Option.bind_some, ih, List.forall₂_cons]
        simp [hc]
      · have hstep : s.step? set = none := by
          simp [Place.step?, Place.next?, hafter, hc]
        simp [hstep, hc]

/-- Past the first place there is no start any more. -/
theorem filter_start_suffixes_of_before (cs : List Char) {s : Place} (hs : s.before ≠ []) :
    (Place.suffixes cs s).filter Edge.start.holds = [] := by
  have hstart : Edge.start.holds s = false := by simpa [Edge.holds] using hs
  induction cs generalizing s with
  | nil => simp [Place.suffixes, hstart]
  | cons c cs ih =>
    rw [Place.suffixes, List.filter_cons_of_neg (by simp [hstart])]
    exact ih (List.cons_ne_nil _ _) rfl

/-- Of all the places in a text only the first one is the start. -/
theorem filter_start_suffixes (cs : List Char) :
    (Place.suffixes cs (Place.start cs)).filter Edge.start.holds = [Place.start cs] := by
  cases cs with
  | nil => rfl
  | cons c cs =>
    simp [Place.suffixes, Place.start, Edge.holds, filter_start_suffixes_of_before]

end Pattern

namespace Schema
namespace Shipped

theorem ends_sequence (ps : List Pattern) (ss : List Pattern.Place) :
    (sequence ps).ends ss = ps.foldl (fun ss p => p.ends ss) ss := by
  induction ps generalizing ss with
  | nil => rfl
  | cons p ps ih =>
    cases ps with
    | nil => rfl
    | cons q ps => exact ih (p.ends ss)

theorem isFound_sequence {ps : List Pattern} {rows : List (List CharSet)}
    (h : List.Forall₂ Pattern.IsRow ps rows) (s : String) :
    (sequence (.edge .start :: (ps ++ [.edge .finish]))).isFound s = true ↔
      List.Forall₂ (fun set c => set.contains c = true) rows.flatten s.toList := by
  have hrows := Pattern.foldl_ends_row h (some (Pattern.Place.start s.toList))
  have hends : (sequence (.edge .start :: (ps ++ [.edge .finish]))).ends
      (Pattern.Place.suffixes s.toList (Pattern.Place.start s.toList)) =
        (Pattern.Place.row? rows.flatten (Pattern.Place.start s.toList)).toList.filter
          Pattern.Edge.finish.holds := by
    rw [ends_sequence, List.foldl_cons, Pattern.ends, Pattern.filter_start_suffixes,
      List.foldl_append]
    exact congrArg (List.filter Pattern.Edge.finish.holds) hrows
  have hfinishes := Pattern.finishes_row rows.flatten (Pattern.Place.start s.toList)
  rw [Pattern.isFound, hends]
  refine Iff.trans ?_ hfinishes
  cases Pattern.Place.row? rows.flatten (Pattern.Place.start s.toList) with
  | none => simp
  | some t => simp [List.filter_cons, Pattern.Edge.holds]

end Shipped
end Schema

/-- How the name of a release candidate looks: `d` stands for a digit, and any other character for
itself. -/
def rcNameForm : String := "rc--dddd-dd-dd_dd-dd"

def FitsSlot (slot c : Char) : Prop := if slot = 'd' then Decimal.isDigit c = true else c = slot

instance (slot c : Char) : Decidable (FitsSlot slot c) := by
  unfold FitsSlot
  infer_instance

/-- A name of the form in full, with nothing before or after it. -/
def IsCanonicalName (name : String) : Prop :=
  List.Forall₂ FitsSlot rcNameForm.toList name.toList

instance (name : String) : Decidable (IsCanonicalName name) :=
  inferInstanceAs (Decidable (List.Forall₂ _ _ _))

namespace Schema
namespace Shipped

def setOfSlot (slot : Char) : CharSet := if slot = 'd' then digitSet else .single slot

theorem contains_setOfSlot (slot c : Char) :
    (setOfSlot slot).contains c = true ↔ FitsSlot slot c := by
  unfold setOfSlot FitsSlot
  split
  · simp [CharSet.contains, CharSet.inRuns, digitSet, Decimal.isDigit, Char.le_def,
      UInt32.le_iff_toNat_le]
  · simp only [CharSet.contains, CharSet.inRuns, CharSet.single, List.any_cons, List.any_nil,
      Bool.or_false, Bool.and_eq_true, decide_eq_true_eq]
    rw [Char.ext_iff, ← UInt32.toNat_inj]
    exact (Nat.le_antisymm_iff.trans and_comm).symm

/-- The pattern of the schema admits the names of the form in full. -/
theorem isFound_rcName (s : String) : rcName.isFound s = true ↔ IsCanonicalName s := by
  have hletter (c : Char) : (letter c).IsRow [CharSet.single c] := Pattern.isRow_one _
  have hfour : (digits 4).IsRow [digitSet, digitSet, digitSet, digitSet] :=
    Pattern.isRow_times (Pattern.isRow_one _) 4 true
  have htwo : (digits 2).IsRow [digitSet, digitSet] :=
    Pattern.isRow_times (Pattern.isRow_one _) 2 true
  have hrows : List.Forall₂ Pattern.IsRow rcNameParts
      [[.single 'r'], [.single 'c'], [.single '-'], [.single '-'],
        [digitSet, digitSet, digitSet, digitSet], [.single '-'], [digitSet, digitSet],
        [.single '-'], [digitSet, digitSet], [.single '_'], [digitSet, digitSet], [.single '-'],
        [digitSet, digitSet]] := by
    simp [rcNameParts, hletter, hfour, htwo]
  rw [rcName, isFound_sequence hrows]
  change List.Forall₂ _ (rcNameForm.toList.map setOfSlot) s.toList ↔ _
  simp only [List.forall₂_map_left_iff, contains_setOfSlot, IsCanonicalName]

example : rcName.isFound "rc--2023-02-29_99-30" = true := (isFound_rcName _).mpr (by decide)

end Shipped
end Schema

/-! What is in a name of the form in full. -/

open Decimal (IsRow)

variable {cs slots : List Char}

theorem exists_of_fitsSlot_cons {slot : Char} (hslot : slot ≠ 'd')
    (h : List.Forall₂ FitsSlot (slot :: slots) cs) :
    ∃ rest, cs = slot :: rest ∧ List.Forall₂ FitsSlot slots rest := by
  cases h with
  | @cons _ c _ rest hc hrest =>
    rw [FitsSlot, if_neg hslot] at hc
    exact ⟨rest, by rw [hc], hrest⟩

theorem exists_row_of_fitsSlot {n : Nat}
    (h : List.Forall₂ FitsSlot (List.replicate n 'd' ++ slots) cs) :
    ∃ ds rest, IsRow n ds ∧ cs = ds ++ rest ∧ List.Forall₂ FitsSlot slots rest := by
  induction n generalizing cs with
  | zero => exact ⟨[], cs, ⟨rfl, nofun⟩, rfl, h⟩
  | succ n ih =>
    cases h with
    | @cons _ c _ cs hc hcs =>
      obtain ⟨ds, rest, ⟨hlength, hds⟩, rfl, hrest⟩ := ih hcs
      have hdigit : Decimal.isDigit c = true := by simpa [FitsSlot] using hc
      exact ⟨c :: ds, rest, ⟨by rw [List.length_cons, hlength], by simpa [hdigit] using hds⟩, rfl,
        hrest⟩

theorem IsCanonicalName.exists_rows {name : String} (h : IsCanonicalName name) :
    ∃ year month day hour minute, IsRow 4 year ∧ IsRow 2 month ∧ IsRow 2 day ∧ IsRow 2 hour ∧
      IsRow 2 minute ∧ name.toList = rcPrefix ++ Timestamp.join year month day hour minute := by
  have hform : rcNameForm.toList = 'r' :: 'c' :: '-' :: '-' :: (List.replicate 4 'd' ++
      '-' :: (List.replicate 2 'd' ++ '-' :: (List.replicate 2 'd' ++ '_' ::
        (List.replicate 2 'd' ++ '-' :: (List.replicate 2 'd' ++ []))))) := rfl
  unfold IsCanonicalName at h
  rw [hform] at h
  obtain ⟨_, hname, h₁⟩ := exists_of_fitsSlot_cons (by decide) h
  obtain ⟨_, rfl, h₂⟩ := exists_of_fitsSlot_cons (by decide) h₁
  obtain ⟨_, rfl, h₃⟩ := exists_of_fitsSlot_cons (by decide) h₂
  obtain ⟨_, rfl, h₄⟩ := exists_of_fitsSlot_cons (by decide) h₃
  obtain ⟨year, _, hyear, rfl, h₅⟩ := exists_row_of_fitsSlot h₄
  obtain ⟨_, rfl, h₆⟩ := exists_of_fitsSlot_cons (by decide) h₅
  obtain ⟨month, _, hmonth, rfl, h₇⟩ := exists_row_of_fitsSlot h₆
  obtain ⟨_, rfl, h₈⟩ := exists_of_fitsSlot_cons (by decide) h₇
  obtain ⟨day, _, hday, rfl, h₉⟩ := exists_row_of_fitsSlot h₈
  obtain ⟨_, rfl, h₁₀⟩ := exists_of_fitsSlot_cons (by decide) h₉
  obtain ⟨hour, _, hhour, rfl, h₁₁⟩ := exists_row_of_fitsSlot h₁₀
  obtain ⟨_, rfl, h₁₂⟩ := exists_of_fitsSlot_cons (by decide) h₁₁
  obtain ⟨minute, _, hminute, rfl, h₁₃⟩ := exists_row_of_fitsSlot h₁₂
  cases h₁₃
  rw [List.append_nil] at hname
  exact ⟨year, month, day, hour, minute, hyear, hmonth, hday, hhour, hminute, hname⟩

theorem stripRcPrefix_of_eq {name : String} {rest : List Char}
    (h : name.toList = rcPrefix ++ rest) : stripRcPrefix name = rest := by
  have hprefix : rcPrefix.isPrefixOf (rcPrefix ++ rest) = true :=
    List.isPrefixOf_iff_prefix.mpr (List.prefix_append _ _)
  rw [stripRcPrefix, h, if_pos hprefix, List.drop_left]

theorem toList_rcPrefix_append (s : String) : ("rc--" ++ s).toList = rcPrefix ++ s.toList := by
  rw [String.toList_append]
  rfl

theorem stripRcPrefix_rcPrefix_append (s : String) : stripRcPrefix ("rc--" ++ s) = s.toList :=
  stripRcPrefix_of_eq (toList_rcPrefix_append s)

/-- Such a name is the text of five numbers, and it is dated if the calendar has a minute with
these numbers. -/
theorem IsCanonicalName.ofRcName {name : String} (h : IsCanonicalName name) :
    ∃ m : Minute, name.toList = rcPrefix ++ m.text ∧
      Timestamp.ofRcName name = Timestamp.ofMinute m := by
  obtain ⟨year, month, day, hour, minute, hyear, hmonth, hday, hhour, hminute, hname⟩ :=
    h.exists_rows
  obtain ⟨m, htext, hparse⟩ := Timestamp.parse_rows hyear hmonth hday hhour hminute
  refine ⟨m, by rw [htext, hname], ?_⟩
  rw [Timestamp.ofRcName, stripRcPrefix_of_eq hname, hparse]

/-- A name that is the text of a minute of the calendar. -/
def NamesMinute (name : String) : Prop :=
  ∃ m : Minute, m.IsReal ∧ name.toList = rcPrefix ++ m.text

/-- A release candidate that is named after a minute of the calendar has this timestamp. -/
theorem NamesMinute.ofRcName {name : String} (h : NamesMinute name) :
    ∃ t : Timestamp, name.toList = rcPrefix ++ t.text ∧ Timestamp.ofRcName name = .ok t := by
  obtain ⟨m, hreal, hname⟩ := h
  refine ⟨⟨m, hreal⟩, hname, ?_⟩
  rw [Timestamp.ofRcName, stripRcPrefix_of_eq hname]
  exact Timestamp.parse_text ⟨m, hreal⟩

theorem IsCanonicalName.ofRcName_of_not {name : String} (h : IsCanonicalName name)
    (hnot : ¬ NamesMinute name) : Timestamp.ofRcName name = .error .outOfRange := by
  obtain ⟨m, hname, hm⟩ := h.ofRcName
  have hreal : ¬ m.IsReal := fun hreal => hnot ⟨m, hreal, hname⟩
  rw [hm, Timestamp.ofMinute_of_not_isReal hreal]

end ReleaseAudit

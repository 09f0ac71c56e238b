import ReleaseAudit.Proofs.RcName
import ReleaseAudit.Proofs.Verdict
import Mathlib.Data.String.Basic

/-! The order of names. Names of the form in full have their fields in the same places and written
with the same number of digits, the weightiest field first, so that as texts they are in the order
of their timestamps. -/
namespace ReleaseAudit
namespace Decimal

variable {n : Nat} {xs ys us vs : List Char}

/-- Texts of one length are compared before what follows them. -/
theorem append_lt_append_iff (h : xs.length = ys.length) :
    xs ++ us < ys ++ vs ↔ xs < ys ∨ xs = ys ∧ us < vs := by
  induction xs generalizing ys with
  | nil =>
    have hys : ys = [] := List.length_eq_zero_iff.mp h.symm
    simp [hys]
  | cons x xs ih =>
    cases ys with
    | nil => cases h
    | cons y ys =>
      have ih := ih (Nat.succ.inj h)
      simp only [List.cons_append, List.cons_lt_cons_iff, ih, List.cons.injEq]
      tauto

theorem digitValue_lt_iff {c d : Char} (hc : isDigit c = true) (hd : isDigit d = true) :
    digitValue c < digitValue d ↔ c < d := by
  simp only [isDigit, Bool.and_eq_true, decide_eq_true_eq, Char.le_def,
    UInt32.le_iff_toNat_le] at hc hd
  rw [Char.lt_def, UInt32.lt_iff_toNat_lt, digitValue, digitValue]
  have h₁ : 48 ≤ c.toNat := hc.1
  have h₂ : 48 ≤ d.toNat := hd.1
  change _ ↔ c.toNat < d.toNat
  omega

theorem IsRow.ofDigits_inj (hx : IsRow n xs) (hy : IsRow n ys) :
    ofDigits xs = ofDigits ys ↔ xs = ys := by
  refine ⟨fun h => ?_, congrArg ofDigits⟩
  rcases Nat.eq_zero_or_pos n with rfl | hn
  · rw [List.length_eq_zero_iff.mp hx.1, List.length_eq_zero_iff.mp hy.1]
  · rw [← hx.padded_ofDigits hn, ← hy.padded_ofDigits hn, h]

theorem IsRow.exists_eq_append (h : IsRow (n + 1) xs) :
    ∃ ds c, xs = ds ++ [c] ∧ IsRow n ds ∧ isDigit c = true := by
  have hne : xs ≠ [] := by
    rintro rfl
    exact absurd h.1 (by simp)
  refine ⟨xs.dropLast, xs.getLast hne, (List.dropLast_append_getLast hne).symm, ⟨?_, ?_⟩, ?_⟩
  · rw [List.length_dropLast, h.1, Nat.add_sub_cancel]
  · exact fun c hc => h.2 c (List.mem_of_mem_dropLast hc)
  · exact h.2 _ (List.getLast_mem hne)

theorem IsRow.ofDigits_lt_iff (hx : IsRow n xs) (hy : IsRow n ys) :
    ofDigits xs < ofDigits ys ↔ xs < ys := by
  induction n generalizing xs ys with
  | zero => simp [List.length_eq_zero_iff.mp hx.1, List.length_eq_zero_iff.mp hy.1]
  | succ n ih =>
    -- The last digit goes first: it only counts if all others are the same.
    obtain ⟨ds, c, rfl, hds, hc⟩ := hx.exists_eq_append
    obtain ⟨es, d, rfl, hes, hd⟩ := hy.exists_eq_append
    have hlast : [c] < [d] ↔ digitValue c < digitValue d := by
      simp [List.cons_lt_cons_iff, digitValue_lt_iff hc hd]
    have hcLt := digitValue_lt hc
    have hdLt := digitValue_lt hd
    rw [append_lt_append_iff (hds.1.trans hes.1.symm), ← ih hds hes, ← hds.ofDigits_inj hes, hlast,
      ofDigits_append_singleton, ofDigits_append_singleton]
    omega

theorem IsRow.append_lt_append_iff (hx : IsRow n xs) (hy : IsRow n ys) :
    xs ++ us < ys ++ vs ↔
      ofDigits xs < ofDigits ys ∨ ofDigits xs = ofDigits ys ∧ us < vs := by
  rw [Decimal.append_lt_append_iff (hx.1.trans hy.1.symm), hx.ofDigits_lt_iff hy,
    hx.ofDigits_inj hy]

end Decimal

open Decimal (IsRow)

/-- Earlier by the first field in which two minutes differ. -/
def Minute.Earlier (m k : Minute) : Prop :=
  m.year < k.year ∨ m.year = k.year ∧ (m.month < k.month ∨ m.month = k.month ∧ (m.day < k.day ∨
    m.day = k.day ∧ (m.hour < k.hour ∨ m.hour = k.hour ∧ m.minute < k.minute)))

/-- No field outweighs one that comes before it. -/
theorem Timestamp.lt_iff_earlier {t u : Timestamp} : t < u ↔ t.toMinute.Earlier u.toMinute := by
  have ht := t.isReal
  have hu := u.isReal
  have htDays := daysInMonth_le t.year t.month
  have huDays := daysInMonth_le u.year u.month
  simp only [Minute.IsReal] at ht hu
  -- Ranks have months of 31 days, so that the days of a real month never reach into the next one.
  rw [Timestamp.lt_iff_rank, Minute.Earlier, Timestamp.rank, Timestamp.rank]
  constructor <;> intro h <;> omega

/-- The text of a minute with four digits for the year and two for any other field. -/
inductive Spells : Minute → List Char → Prop
  | rows {year month day hour minute : List Char} (hyear : IsRow 4 year) (hmonth : IsRow 2 month)
    (hday : IsRow 2 day) (hhour : IsRow 2 hour) (hminute : IsRow 2 minute) :
    Spells ⟨Decimal.ofDigits year, Decimal.ofDigits month, Decimal.ofDigits day,
      Decimal.ofDigits hour, Decimal.ofDigits minute⟩ (Timestamp.join year month day hour minute)

theorem Spells.lt_iff_earlier {m k : Minute} {cs ds : List Char} (hm : Spells m cs)
    (hk : Spells k ds) : cs < ds ↔ m.Earlier k := by
  obtain ⟨hyear, hmonth, hday, hhour, hminute⟩ := hm
  obtain ⟨hyear', hmonth', hday', hhour', hminute'⟩ := hk
  simp only [Timestamp.join, hyear.append_lt_append_iff hyear',
    hmonth.append_lt_append_iff hmonth', hday.append_lt_append_iff hday',
    hhour.append_lt_append_iff hhour', ← hminute.ofDigits_lt_iff hminute', List.cons_lt_cons_iff,
    lt_irrefl, false_or, true_and, Minute.Earlier, Int.ofNat_lt, Int.ofNat_inj]

theorem IsCanonicalName.exists_spells {name : String} (h : IsCanonicalName name) {t : Timestamp}
    (ht : Timestamp.ofRcName name = .ok t) :
    ∃ cs, name.toList = rcPrefix ++ cs ∧ Spells t.toMinute cs := by
  obtain ⟨year, month, day, hour, minute, hyear, hmonth, hday, hhour, hminute, hname⟩ :=
    h.exists_rows
  refine ⟨_, hname, ?_⟩
  rw [Timestamp.ofRcName, stripRcPrefix_of_eq hname,
    Timestamp.parse_join (fun rest => Timestamp.readYear_row hyear _) hmonth hday hhour
      hminute] at ht
  rw [Timestamp.toMinute_of_ofMinute ht]
  exact .rows hyear hmonth hday hhour hminute

namespace NameOrder

variable {ε : Type} {index : ReleaseIndex}

/-- A release that is named in full, and has the timestamp of its name. -/
structure WellDated (r : Release) : Prop where
  matched : Schema.Shipped.rcName.isFound r.rcName = true
  dated : r.Dated

theorem lt_iff_rcName_lt {r s : Release} (hr : WellDated r) (hs : WellDated s) :
    r.timestamp < s.timestamp ↔ r.rcName < s.rcName := by
  obtain ⟨cs, hcs, hrSpells⟩ :=
    ((Schema.Shipped.isFound_rcName _).mp hr.matched).exists_spells hr.dated
  obtain ⟨ds, hds, hsSpells⟩ :=
    ((Schema.Shipped.isFound_rcName _).mp hs.matched).exists_spells hs.dated
  rw [Timestamp.lt_iff_earlier, ← hrSpells.lt_iff_earlier hsSpells, String.lt_iff_toList_lt, hcs,
    hds, Decimal.append_lt_append_iff rfl]
  simp

theorem le_iff_rcName_le {r s : Release} (hr : WellDated r) (hs : WellDated s) :
    r.timestamp ≤ s.timestamp ↔ r.rcName ≤ s.rcName := by
  rw [← not_lt, ← lt_iff_rcName_lt hs hr, ← Timestamp.not_le, not_not]

theorem compare_timestamp {r s : Release} (hr : WellDated r) (hs : WellDated s) :
    compare r.timestamp s.timestamp = compare r.rcName s.rcName := by
  rcases lt_trichotomy r.rcName s.rcName with h | h | h
  · rw [compare_lt_iff_lt.mpr h]
    exact Int.compare_eq_lt.mpr ((lt_iff_rcName_lt hr hs).mpr h)
  · have hle := (le_iff_rcName_le hr hs).mpr h.le
    have hge := (le_iff_rcName_le hs hr).mpr h.ge
    rw [compare_eq_iff_eq.mpr h]
    exact Int.compare_eq_eq.mpr (le_antisymm hle hge)
  · rw [compare_gt_iff_gt.mpr h]
    exact Int.compare_eq_gt.mpr ((lt_iff_rcName_lt hs hr).mpr h)

/-- The adjacent releases of which the second one has the greater name. -/
def risingNames (index : ReleaseIndex) : List Violation :=
  (index.releases.zip index.releases.tail).filterMap fun p =>
    if p.1.rcName < p.2.rcName then some (.rcOutOfOrder p.1.rcName p.2.rcName) else none

theorem inversions_eq_risingNames (h : ∀ r ∈ index.releases, WellDated r) :
    BatchReport.inversions index = risingNames index := by
  refine List.filterMap_congr fun p hp => ?_
  have hfirst := h p.1 (List.of_mem_zip hp).1
  have hsecond := h p.2 (List.mem_of_mem_tail (List.of_mem_zip hp).2)
  simp only [lt_iff_rcName_lt hfirst hsecond]

theorem inversions_eq_nil_iff_names (h : ∀ r ∈ index.releases, WellDated r) :
    BatchReport.inversions index = [] ↔
      (index.releases.map (·.rcName)).Pairwise (· ≥ ·) := by
  rw [Verdict.inversions_eq_nil_iff, List.pairwise_map, List.pairwise_iff_getElem]
  constructor
  · intro horder i j hi hj hij
    exact (le_iff_rcName_le (h _ (List.getElem_mem hj)) (h _ (List.getElem_mem hi))).mp
      (horder i j hij hj)
  · intro horder i j hij hj
    have hi : i < index.releases.length := hij.trans hj
    exact (le_iff_rcName_le (h _ (List.getElem_mem hj)) (h _ (List.getElem_mem hi))).mpr
      (horder i j hi hj hij)

/-- Among releases that are named in full the order of time is the order of texts. So their order
passes exactly if the names never rise, and a batch run reports each rise from one to the next. -/
theorem rcOrder_by_name (h : ∀ r ∈ index.releases, WellDated r) :
    (∀ r ∈ index.releases, ∀ s ∈ index.releases,
      compare r.timestamp s.timestamp = compare r.rcName s.rcName) ∧
    (∀ (mode : Mode) (repository : Option (Repository ε)), ∃ result,
      (Rule.rcOrder.run ⟨index, mode, repository⟩).result = .ok result ∧
        (result.passed = true ↔ (index.releases.map (·.rcName)).Pairwise (· ≥ ·))) ∧
    ∀ repository : Option (Repository ε), ∃ result,
      (Rule.rcOrder.run ⟨index, .batch, repository⟩).result = .ok result ∧
        result.violations = risingNames index := by
  refine ⟨fun r hr s hs => compare_timestamp (h r hr) (h s hs), fun mode repository => ?_,
    fun repository => ⟨_, BatchReport.result_rcOrder index repository,
      inversions_eq_risingNames h⟩⟩
  obtain ⟨result, hresult, hiff⟩ := Truncation.exists_result_of_batch (by simp [standardChecks])
    (BatchReport.result_rcOrder index repository) mode
  refine ⟨result, hresult, hiff.trans ?_⟩
  rw [CheckResult.passed_iff, inversions_eq_nil_iff_names h]

def turnOfMonth : ReleaseIndex :=
  ⟨[⟨"rc--2024-03-01_00-00", ⟨⟨2024, 3, 1, 0, 0⟩, by decide⟩, []⟩,
    ⟨"rc--2024-02-29_23-59", ⟨⟨2024, 2, 29, 23, 59⟩, by decide⟩, []⟩,
    ⟨"rc--2024-10-01_00-00", ⟨⟨2024, 10, 1, 0, 0⟩, by decide⟩, []⟩]⟩

theorem rcOrder_by_name_turnOfMonth :
    (∀ r ∈ turnOfMonth.releases, WellDated r) ∧
    (∀ r ∈ turnOfMonth.releases, ∀ s ∈ turnOfMonth.releases,
      compare r.timestamp s.timestamp = compare r.rcName s.rcName) ∧
    (∃ result, (Rule.rcOrder.run
        (⟨turnOfMonth, .failFast, none⟩ : CheckContext Unit)).result = .ok result ∧
      result.passed = false) ∧
    ∃ result, (Rule.rcOrder.run
        (⟨turnOfMonth, .batch, none⟩ : CheckContext Unit)).result = .ok result ∧
      result.violations = [.rcOutOfOrder "rc--2024-02-29_23-59" "rc--2024-10-01_00-00"] := by
  have h : ∀ r ∈ turnOfMonth.releases, WellDated r := by
    have hmatched : ∀ r ∈ turnOfMonth.releases,
        Schema.Shipped.rcName.isFound r.rcName = true := by decide +kernel
    have hdated : ∀ r ∈ turnOfMonth.releases, r.Dated := by
      unfold Release.Dated
      decide +kernel
    exact fun r hr => ⟨hmatched r hr, hdated r hr⟩
  have hrises : ¬ (turnOfMonth.releases.map (·.rcName)).Pairwise (· ≥ ·) := by decide +kernel
  have hrising : risingNames turnOfMonth =
      [.rcOutOfOrder "rc--2024-02-29_23-59" "rc--2024-10-01_00-00"] := by decide +kernel
  obtain ⟨hcompare, hpasses, hreports⟩ := rcOrder_by_name (ε := Unit) h
  obtain ⟨result, hresult, hiff⟩ := hpasses .failFast none
  obtain ⟨full, hfull, hviolations⟩ := hreports none
  refine ⟨h, hcompare, ⟨result, hresult, ?_⟩, full, hfull, hviolations.trans hrising⟩
  rw [← Bool.not_eq_true, hiff]
  exact hrises

end NameOrder
end ReleaseAudit

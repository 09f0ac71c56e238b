import ReleaseAudit.Release
import ReleaseAudit.Traced
import Mathlib.Data.List.TakeWhile
import Mathlib.Data.List.Induction

/-! Minutes read back from their texts. A row of digits is read as the number that it stands for, and
is the padded text of this number. -/
namespace ReleaseAudit
namespace Decimal

def IsRow (n : Nat) (ds : List Char) : Prop := ds.length = n ∧ ∀ c ∈ ds, isDigit c = true

theorem digitChar_digitValue {c : Char} (h : isDigit c = true) : digitChar (digitValue c) = c := by
  simp only [isDigit, Bool.and_eq_true, decide_eq_true_eq, Char.le_def,
    UInt32.le_iff_toNat_le] at h
  have hcode : 48 + (c.toNat - 48) = c.toNat := Nat.add_sub_cancel' h.1
  rw [digitChar, digitValue, hcode, Char.ofNat_toNat]

theorem digitValue_lt {c : Char} (h : isDigit c = true) : digitValue c < 10 := by
  simp only [isDigit, Bool.and_eq_true, decide_eq_true_eq, Char.le_def,
    UInt32.le_iff_toNat_le] at h
  have hnine : c.toNat ≤ 57 := h.2
  rw [digitValue]
  omega

theorem digits_of_lt {d : Nat} (h : d < 10) : digits d = [digitChar d] := by
  rw [digits, if_pos h]

theorem ofDigits_replicate_append (k : Nat) (ds : List Char) :
    ofDigits (List.replicate k '0' ++ ds) = ofDigits ds := by
  induction k with
  | zero => rfl
  | succ k ih => exact ih

theorem ofDigits_padded (width n : Nat) : ofDigits (padded width n) = n := by
  rw [padded, ofDigits_replicate_append, ofDigits_digits]

theorem isDigit_of_mem_padded (width n : Nat) : ∀ c ∈ padded width n, isDigit c = true := by
  intro c hc
  rcases List.mem_append.mp hc with hc | hc
  · rw [List.eq_of_mem_replicate hc]
    decide
  · exact isDigit_of_mem_digits n c hc

theorem padded_ne_nil (width n : Nat) : padded width n ≠ [] := by
  simp [padded, digits_ne_nil]

/-- One more place holds one more digit. -/
theorem padded_succ {width d : Nat} (hwidth : 0 < width) (n : Nat) (hd : d < 10) :
    padded (width + 1) (10 * n + d) = padded width n ++ [digitChar d] := by
  by_cases hn : n = 0
  · subst hn
    obtain ⟨w, rfl⟩ := Nat.exists_eq_succ_of_ne_zero hwidth.ne'
    have hzero : digits 0 = ['0'] := digits_of_lt (by decide)
    simp [padded, hzero, digits_of_lt hd, List.replicate_succ']
  · have hmore : digits (10 * n + d) = digits n ++ [digitChar d] := by
      have hdiv : (10 * n + d) / 10 = n := by omega
      have hmod : (10 * n + d) % 10 = d := by omega
      rw [digits, if_neg (by omega), hdiv, hmod]
    simp [padded, hmore]

/-- A row of digits is the padded text of the number that it stands for. -/
theorem padded_ofDigits {ds : List Char} (hne : ds ≠ []) (h : ∀ c ∈ ds, isDigit c = true) :
    padded ds.length (ofDigits ds) = ds := by
  induction ds using List.reverseRecOn with
  | nil => exact absurd rfl hne
  | append_singleton ds c ih =>
    have hc : isDigit c = true := h c (by simp)
    rw [ofDigits_append_singleton, List.length_append, List.length_singleton]
    by_cases hds : ds = []
    · subst hds
      simp [padded, digits_of_lt (digitValue_lt hc), digitChar_digitValue hc]
    · rw [padded_succ (List.length_pos_iff.mpr hds) _ (digitValue_lt hc),
        ih hds fun d hd => h d (by simp [hd]), digitChar_digitValue hc]

theorem length_padded {width n : Nat} (hwidth : 0 < width) (h : n < tenTo width) :
    (padded width n).length = width := by
  induction width, hwidth using Nat.le_induction generalizing n with
  | base =>
    have hdigit : digits n = [digitChar n] := digits_of_lt h
    simp [padded, hdigit]
  | succ width hwidth ih =>
    have hsplit : n = 10 * (n / 10) + n % 10 := by omega
    have hsmaller : n / 10 < tenTo width := by
      rw [tenTo_succ] at h
      omega
    rw [hsplit, padded_succ hwidth _ (Nat.mod_lt n (by decide)), List.length_append, ih hsmaller,
      List.length_singleton]

theorem isRow_padded {width n : Nat} (hwidth : 0 < width) (h : n < tenTo width) :
    IsRow width (padded width n) :=
  ⟨length_padded hwidth h, isDigit_of_mem_padded width n⟩

theorem IsRow.padded_ofDigits {n : Nat} {ds : List Char} (h : IsRow n ds) (hn : 0 < n) :
    padded n (ofDigits ds) = ds := by
  have hne : ds ≠ [] := List.length_pos_iff.mp (h.1.symm ▸ hn)
  rw [← h.1]
  exact Decimal.padded_ofDigits hne h.2

theorem IsRow.ofDigits_lt {n : Nat} {ds : List Char} (h : IsRow n ds) : ofDigits ds < tenTo n := by
  obtain ⟨rfl, hds⟩ := h
  induction ds using List.reverseRecOn with
  | nil => decide
  | append_singleton ds c ih =>
    have hlast : digitValue c < 10 := digitValue_lt (hds c (by simp))
    have hrest := ih fun d hd => hds d (by simp [hd])
    rw [ofDigits_append_singleton, List.length_append, List.length_singleton, tenTo_succ]
    omega

end Decimal

namespace Timestamp

open Decimal (IsRow)

theorem not_isBlank_of_isDigit {c : Char} (h : Decimal.isDigit c = true) :
    Text.isBlank c = false := by
  simp only [Decimal.isDigit, Bool.and_eq_true, decide_eq_true_eq, Char.le_def,
    UInt32.le_iff_toNat_le] at h
  have hzero : 48 ≤ c.toNat := h.1
  have hnine : c.toNat ≤ 57 := h.2
  simp [Text.isBlank, Text.blankRuns]
  omega

theorem trimStart_of_isDigit {ds : List Char} (hne : ds ≠ [])
    (h : ∀ c ∈ ds, Decimal.isDigit c = true) (rest : List Char) :
    Text.trimStart (ds ++ rest) = ds ++ rest := by
  cases ds with
  | nil => exact absurd rfl hne
  | cons c ds =>
    have hc : Text.isBlank c = false := not_isBlank_of_isDigit (h c (by simp))
    simp [Text.trimStart, hc]

theorem readNumber_some {n : Nat} (hn : 0 < n) {ds : List Char} (h : IsRow n ds)
    (rest : List Char) :
    readNumber (some n) (ds ++ rest) = .ok (Decimal.ofDigits ds, rest) := by
  obtain ⟨rfl, hds⟩ := h
  have hwindow : ((ds ++ rest).take ds.length).takeWhile Decimal.isDigit = ds := by
    rw [List.take_left]
    exact List.takeWhile_eq_self_iff.mpr hds
  cases ds with
  | nil => cases hn
  | cons c ds =>
    simp only [readNumber, hwindow]
    rw [List.drop_left]

theorem readNumber_none {ds : List Char} (hne : ds ≠ [])
    (h : ∀ c ∈ ds, Decimal.isDigit c = true) {c : Char} (hc : Decimal.isDigit c = false)
    (rest : List Char) :
    readNumber none (ds ++ c :: rest) = .ok (Decimal.ofDigits ds, c :: rest) := by
  have hwindow : (ds ++ c :: rest).takeWhile Decimal.isDigit = ds := by
    rw [List.takeWhile_append_of_pos h, List.takeWhile_cons_of_neg (by simp [hc]), List.append_nil]
  cases ds with
  | nil => exact absurd rfl hne
  | cons d ds =>
    simp only [readNumber, hwindow]
    rw [List.drop_left]

theorem readField_row {ds : List Char} (h : IsRow 2 ds) (low high : Nat) (rest : List Char) :
    readField low high (ds ++ rest) =
      if low ≤ Decimal.ofDigits ds ∧ Decimal.ofDigits ds ≤ high
      then .ok (Decimal.ofDigits ds, rest) else .error .outOfRange := by
  have hne : ds ≠ [] := List.length_pos_iff.mp (by rw [h.1]; decide)
  rw [readField, trimStart_of_isDigit hne h.2, readNumber_some (by decide) h]
  rfl

theorem readLiteral_cons (c : Char) (rest : List Char) :
    readLiteral c (c :: rest) = .ok rest := by
  rw [readLiteral, if_pos rfl]

theorem readYear_row {ds : List Char} (h : IsRow 4 ds) (rest : List Char) :
    readYear (ds ++ rest) = .ok ((Decimal.ofDigits ds : Int), rest) := by
  have hne : ds ≠ [] := List.length_pos_iff.mp (by rw [h.1]; decide)
  unfold readYear
  rw [trimStart_of_isDigit hne h.2]
  split
  · next heq =>
    obtain ⟨c, cs, rfl⟩ := List.exists_cons_of_ne_nil hne
    cases heq
    exact absurd (h.2 '-' (by simp)) (by decide)
  · next heq =>
    obtain ⟨c, cs, rfl⟩ := List.exists_cons_of_ne_nil hne
    cases heq
    exact absurd (h.2 '+' (by simp)) (by decide)
  · rw [readNumber_some (by decide) h]
    rfl

theorem readYear_yearText {year : Int} (hfirst : firstYear ≤ year) (hlast : year ≤ lastYear)
    (rest : List Char) :
    readYear (yearText year ++ '-' :: rest) = .ok (year, '-' :: rest) := by
  unfold firstYear at hfirst
  unfold lastYear at hlast
  have hread := readNumber_none (Decimal.padded_ne_nil 4 year.natAbs)
    (Decimal.isDigit_of_mem_padded 4 year.natAbs) (by decide : Decimal.isDigit '-' = false) rest
  rw [Decimal.ofDigits_padded] at hread
  have htwo : Decimal.twoTo 31 = 2147483648 := by decide
  -- Behind a sign the digits are read up to the dash, however many there are.
  unfold yearText
  split
  · next h =>
    have hfour : Decimal.tenTo 4 = 10000 := rfl
    have hrow : IsRow 4 (Decimal.padded 4 year.toNat) :=
      Decimal.isRow_padded (by decide) (by omega)
    rw [readYear_row hrow, Decimal.ofDigits_padded, Int.toNat_of_nonneg h.1]
  · split
    · next hneg =>
      have hbound : year.natAbs ≤ Decimal.twoTo 31 := by omega
      have hyear : -(year.natAbs : Int) = year := by omega
      have htrim : Text.trimStart ('-' :: (Decimal.padded 4 year.natAbs ++ '-' :: rest)) =
          '-' :: (Decimal.padded 4 year.natAbs ++ '-' :: rest) := rfl
      rw [List.cons_append, readYear, htrim]
      simp only [hread]
      change (if _ then _ else _) = _
      rw [if_pos hbound, hyear]
      rfl
    · next hneg =>
      have hbound : year.natAbs < Decimal.twoTo 31 := by omega
      have hyear : (year.natAbs : Int) = year := by omega
      have htrim : Text.trimStart ('+' :: (Decimal.padded 4 year.natAbs ++ '-' :: rest)) =
          '+' :: (Decimal.padded 4 year.natAbs ++ '-' :: rest) := rfl
      rw [List.cons_append, readYear, htrim]
      simp only [hread]
      change (if _ then _ else _) = _
      rw [if_pos hbound, hyear]
      rfl

theorem ofMinute_of_isReal {m : Minute} (h : m.IsReal) : ofMinute m = .ok ⟨m, h⟩ := dif_pos h

theorem ofMinute_of_not_isReal {m : Minute} (h : ¬ m.IsReal) : ofMinute m = .error .outOfRange :=
  dif_neg h

theorem toMinute_of_ofMinute {m : Minute} {t : Timestamp} (h : ofMinute m = .ok t) :
    t.toMinute = m := by
  unfold ofMinute at h
  split at h <;> cases h
  rfl

def join (year month day hour minute : List Char) : List Char :=
  year ++ '-' :: (month ++ '-' :: (day ++ '_' :: (hour ++ '-' :: minute)))

theorem text_eq_join (m : Minute) :
    m.text = join (yearText m.year) (Decimal.padded 2 m.month) (Decimal.padded 2 m.day)
      (Decimal.padded 2 m.hour) (Decimal.padded 2 m.minute) := by
  simp [Minute.text, join]

variable {ys month day hour minute : List Char}

/-- What follows a check goes on from its value, and the flaw stays. -/
theorem check_bind {α β : Type} {p : Prop} [Decidable p] (a : α) (flaw : Flaw)
    (next : α → Except Flaw β) :
    ((if p then .ok a else .error flaw) >>= next) = if p then next a else .error flaw := by
  split <;> rfl

/-- After the year come four rows of two digits. A number that is refused as soon as it is read is
one that the calendar does not have either. -/
theorem parse_join {year : Int}
    (hyear : ∀ rest, readYear (ys ++ '-' :: rest) = .ok (year, '-' :: rest))
    (hmonth : IsRow 2 month) (hday : IsRow 2 day) (hhour : IsRow 2 hour)
    (hminute : IsRow 2 minute) :
    parse (join ys month day hour minute) =
      ofMinute ⟨year, Decimal.ofDigits month, Decimal.ofDigits day, Decimal.ofDigits hour,
        Decimal.ofDigits minute⟩ := by
  have hlast := readField_row hminute 0 59 []
  rw [List.append_nil] at hlast
  unfold parse
  simp only [readMinute, join, hyear, readLiteral_cons, readField_row hmonth, readField_row hday,
    readField_row hhour, hlast, check_bind, ok_bind, pure, Except.pure]
  by_cases hreal : Minute.IsReal ⟨year, Decimal.ofDigits month, Decimal.ofDigits day,
      Decimal.ofDigits hour, Decimal.ofDigits minute⟩
  · obtain ⟨-, -, hmonthLow, hmonthHigh, hdayLow, hdayHigh, hhourHigh, hminuteHigh⟩ := hreal
    have hdays := hdayHigh.trans (daysInMonth_le _ _)
    rw [if_pos ⟨hmonthLow, hmonthHigh⟩, if_pos ⟨hdayLow, hdays⟩, if_pos ⟨Nat.zero_le _, hhourHigh⟩,
      if_pos ⟨Nat.zero_le _, hminuteHigh⟩]
    rfl
  · rw [ofMinute_of_not_isReal hreal]
    split_ifs
    · exact ofMinute_of_not_isReal hreal
    all_goals rfl

/-- A timestamp is read back from its text. -/
theorem parse_text (t : Timestamp) : parse t.text = .ok t := by
  obtain ⟨hfirst, hlast, hmonthLow, hmonthHigh, hdayLow, hdayHigh, hhourHigh, hminuteHigh⟩ :=
    t.isReal
  have hdays := hdayHigh.trans (daysInMonth_le _ _)
  have hpadded : ∀ n, n < 100 → IsRow 2 (Decimal.padded 2 n) := fun n hn =>
    Decimal.isRow_padded (by decide) hn
  rw [text_eq_join, parse_join (readYear_yearText hfirst hlast) (hpadded _ (by omega))
    (hpadded _ (by omega)) (hpadded _ (by omega)) (hpadded _ (by omega))]
  simp only [Decimal.ofDigits_padded]
  exact ofMinute_of_isReal t.isReal

/-- Rows of digits are read as the minute whose text they are. -/
theorem parse_rows (hyear : IsRow 4 ys) (hmonth : IsRow 2 month) (hday : IsRow 2 day)
    (hhour : IsRow 2 hour) (hminute : IsRow 2 minute) :
    ∃ m : Minute, m.text = join ys month day hour minute ∧
      parse (join ys month day hour minute) = ofMinute m := by
  refine ⟨⟨Decimal.ofDigits ys, Decimal.ofDigits month, Decimal.ofDigits day,
    Decimal.ofDigits hour, Decimal.ofDigits minute⟩, ?_,
    parse_join (fun rest => readYear_row hyear _) hmonth hday hhour hminute⟩
  have hlt : Decimal.ofDigits ys < 10000 := hyear.ofDigits_lt
  have hyearText : yearText (Decimal.ofDigits ys) = ys := by
    rw [yearText, if_pos (by omega), Int.toNat_natCast, hyear.padded_ofDigits (by decide)]
  rw [text_eq_join, hyearText, hmonth.padded_ofDigits (by decide),
    hday.padded_ofDigits (by decide), hhour.padded_ofDigits (by decide),
    hminute.padded_ofDigits (by decide)]

end Timestamp
end ReleaseAudit

import ReleaseAudit.Audit.Document
import ReleaseAudit.Proofs.NameOrder
import Mathlib.Data.Nat.Digits.Defs
import Mathlib.Tactic.IntervalCases

/-! Names of the form in full and the calendar. Such a name is dated exactly if the calendar has the
minute whose numbers stand in it, and the conventional beginning may be left out, but not written
twice. -/
namespace ReleaseAudit
namespace Calendar

/-! The calendar, month by month. -/

/-- Every fourth year has a leap day, but of the full centuries only every fourth one. -/
def IsLeap (year : Int) : Prop := 4 ∣ year ∧ ¬ 100 ∣ year ∨ 400 ∣ year

instance (year : Int) : Decidable (IsLeap year) := by
  unfold IsLeap
  infer_instance

def monthLengths (year : Int) : List Nat :=
  [31, if IsLeap year then 29 else 28, 31, 30, 31, 30, 31, 31, 30, 31, 30, 31]

structure Has (m : Minute) : Prop where
  month_pos : 1 ≤ m.month
  month_le : m.month ≤ 12
  day_pos : 1 ≤ m.day
  day_le : ∃ length, (monthLengths m.year)[m.month - 1]? = some length ∧ m.day ≤ length
  hour_le : m.hour ≤ 23
  minute_le : m.minute ≤ 59

theorem isLeapYear_iff {year : Int} : isLeapYear year = true ↔ IsLeap year := by
  simp only [isLeapYear, IsLeap, Bool.and_eq_true, Bool.or_eq_true, decide_eq_true_eq]
  omega

theorem monthLengths_eq {year : Int} {month : Nat} (hpos : 1 ≤ month) (hle : month ≤ 12) :
    (monthLengths year)[month - 1]? = some (daysInMonth year month) := by
  have hleap : (if isLeapYear year then 29 else 28) = if IsLeap year then 29 else 28 :=
    if_congr isLeapYear_iff rfl rfl
  unfold daysInMonth
  rw [hleap]
  interval_cases month <;> rfl

/-- Within the years that timestamps reach, the real minutes are those of the calendar. -/
theorem isReal_iff_has {m : Minute} (hfirst : firstYear ≤ m.year) (hlast : m.year ≤ lastYear) :
    m.IsReal ↔ Has m := by
  constructor
  · rintro ⟨-, -, hmonthPos, hmonthLe, hdayPos, hdayLe, hhour, hminute⟩
    exact ⟨hmonthPos, hmonthLe, hdayPos, ⟨_, monthLengths_eq hmonthPos hmonthLe, hdayLe⟩, hhour,
      hminute⟩
  · rintro ⟨hmonthPos, hmonthLe, hdayPos, ⟨length, hlength, hdayLe⟩, hhour, hminute⟩
    rw [monthLengths_eq hmonthPos hmonthLe] at hlength
    cases hlength
    exact ⟨hfirst, hlast, hmonthPos, hmonthLe, hdayPos, hdayLe, hhour, hminute⟩

/-! The numbers in a text. -/

/-- The form in full, without the conventional beginning. -/
def stampForm : String := "dddd-dd-dd_dd-dd"

def IsStamp (stamp : String) : Prop := List.Forall₂ FitsSlot stampForm.toList stamp.toList

instance (stamp : String) : Decidable (IsStamp stamp) :=
  inferInstanceAs (Decidable (List.Forall₂ _ _ _))

def numberAt (cs : List Char) (start width : Nat) : Nat :=
  Nat.ofDigits 10 (((cs.drop start).take width).reverse.map fun c => c.toNat - '0'.toNat)

/-- The year, the month, the day, the hour and the minute, each in its place. -/
def minuteIn (stamp : String) : Minute :=
  ⟨numberAt stamp.toList 0 4, numberAt stamp.toList 5 2, numberAt stamp.toList 8 2,
    numberAt stamp.toList 11 2, numberAt stamp.toList 14 2⟩

theorem ofDigits_eq (ds : List Char) :
    Nat.ofDigits 10 (ds.reverse.map fun c => c.toNat - '0'.toNat) = Decimal.ofDigits ds := by
  induction ds using List.reverseRecOn with
  | nil => rfl
  | append_singleton ds c ih =>
    rw [List.reverse_append, List.reverse_singleton, List.singleton_append, List.map_cons,
      Nat.ofDigits_cons, ih, Decimal.ofDigits_append_singleton, Nat.add_comm]
    rfl

theorem numberAt_eq {cs before ds : List Char} {start width : Nat} (h : before ++ ds <+: cs)
    (hstart : before.length = start) (hwidth : ds.length = width) :
    numberAt cs start width = Decimal.ofDigits ds := by
  subst hstart
  subst hwidth
  obtain ⟨after, rfl⟩ := h
  rw [numberAt, List.append_assoc, List.drop_left, List.take_left, ofDigits_eq]

theorem isCanonicalName_of_isStamp {stamp : String} (h : IsStamp stamp) :
    IsCanonicalName ("rc--" ++ stamp) := by
  have hbegin : List.Forall₂ FitsSlot rcPrefix rcPrefix := by decide
  rw [IsCanonicalName, toList_rcPrefix_append]
  exact List.rel_append hbegin h

theorem spells_minuteIn {stamp : String} (h : IsStamp stamp) :
    Spells (minuteIn stamp) stamp.toList := by
  obtain ⟨year, month, day, hour, minute, hyear, hmonth, hday, hhour, hminute, hname⟩ :=
    (isCanonicalName_of_isStamp h).exists_rows
  rw [toList_rcPrefix_append, List.append_cancel_left_eq] at hname
  -- Each number stands behind a text whose length does not depend on the minute.
  have hyearAt : [] ++ year <+: stamp.toList := by simp [hname, Timestamp.join]
  have hmonthAt : year ++ ['-'] ++ month <+: stamp.toList := by simp [hname, Timestamp.join]
  have hdayAt : year ++ '-' :: month ++ ['-'] ++ day <+: stamp.toList := by
    simp [hname, Timestamp.join]
  have hhourAt : year ++ '-' :: month ++ '-' :: day ++ ['_'] ++ hour <+: stamp.toList := by
    simp [hname, Timestamp.join]
  have hminuteAt : year ++ '-' :: month ++ '-' :: day ++ '_' :: hour ++ ['-'] ++ minute <+:
      stamp.toList := by
    simp [hname, Timestamp.join]
  rw [minuteIn, numberAt_eq hyearAt List.length_nil hyear.1,
    numberAt_eq hmonthAt (by simp [hyear.1]) hmonth.1,
    numberAt_eq hdayAt (by simp [hyear.1, hmonth.1]) hday.1,
    numberAt_eq hhourAt (by simp [hyear.1, hmonth.1, hday.1]) hhour.1,
    numberAt_eq hminuteAt (by simp [hyear.1, hmonth.1, hday.1, hhour.1]) hminute.1, hname]
  exact .rows hyear hmonth hday hhour hminute

theorem parse_of_spells {m : Minute} {cs : List Char} (h : Spells m cs) :
    Timestamp.parse cs = Timestamp.ofMinute m := by
  obtain ⟨hyear, hmonth, hday, hhour, hminute⟩ := h
  exact Timestamp.parse_join (fun rest => Timestamp.readYear_row hyear _) hmonth hday hhour hminute

/-- Four digits stay far within the years that timestamps reach. -/
theorem isReal_iff_of_spells {m : Minute} {cs : List Char} (h : Spells m cs) :
    m.IsReal ↔ Has m := by
  obtain ⟨hyear, -, -, -, -⟩ := h
  have hlt := hyear.ofDigits_lt
  have htenThousand : Decimal.tenTo 4 = 10000 := rfl
  refine isReal_iff_has ?_ ?_
  · dsimp only [firstYear]
    omega
  · dsimp only [lastYear]
    omega

/-! Names. -/

theorem stripRcPrefix_of_isStamp {stamp : String} (h : IsStamp stamp) :
    stripRcPrefix stamp = stamp.toList := by
  have hbegin : ¬ rcPrefix <+: stamp.toList := by
    rintro ⟨rest, hrest⟩
    unfold IsStamp at h
    rw [← hrest] at h
    exact absurd (List.forall₂_cons.mp h).1 (by decide)
  rw [stripRcPrefix, if_neg (by simpa using hbegin)]

theorem ofRcName_of_isStamp {stamp name : String} (h : IsStamp stamp)
    (hname : name = stamp ∨ name = "rc--" ++ stamp) :
    Timestamp.ofRcName name = Timestamp.ofMinute (minuteIn stamp) := by
  have hstrip : stripRcPrefix name = stamp.toList := by
    rcases hname with rfl | rfl
    · exact stripRcPrefix_of_isStamp h
    · exact stripRcPrefix_rcPrefix_append stamp
  rw [Timestamp.ofRcName, hstrip, parse_of_spells (spells_minuteIn h)]

def undated (name reason : String) : Fault :=
  .malformedIndex ("RC name '" ++ name ++ "' does not carry a %Y-%m-%d_%H-%M timestamp: " ++ reason)

theorem readTimestamp_of_ok {name : String} {t : Timestamp} (h : Timestamp.ofRcName name = .ok t) :
    Audit.readTimestamp name = .ok t := by
  rw [Audit.readTimestamp, h]
  rfl

theorem readTimestamp_of_error {name : String} {flaw : Timestamp.Flaw}
    (h : Timestamp.ofRcName name = .error flaw) :
    Audit.readTimestamp name = .error (undated name flaw.message) := by
  rw [Audit.readTimestamp, h]
  simp only [undated, ReleaseIndex.Flaw.message, String.append_assoc]
  rfl

/-- What comes of a name: the timestamp of a minute of the calendar, or a fault that quotes the
name. -/
structure DatedBy (m : Minute) (name : String) : Prop where
  ok_iff : (∃ t, Audit.readTimestamp name = .ok t) ↔ Has m
  fields : ∀ t, Audit.readTimestamp name = .ok t → t.toMinute = m
  fault : ∀ fault, Audit.readTimestamp name = .error fault →
    fault = undated name "input is out of range"

theorem datedBy_of_isStamp {stamp name : String} (h : IsStamp stamp)
    (hname : name = stamp ∨ name = "rc--" ++ stamp) : DatedBy (minuteIn stamp) name := by
  have hread := ofRcName_of_isStamp h hname
  have hreal := isReal_iff_of_spells (spells_minuteIn h)
  by_cases hhas : Has (minuteIn stamp)
  · rw [Timestamp.ofMinute_of_isReal (hreal.mpr hhas)] at hread
    have hok := readTimestamp_of_ok hread
    refine ⟨⟨fun _ => hhas, fun _ => ⟨_, hok⟩⟩, fun t ht => ?_, fun fault hfault => ?_⟩
    · rw [hok] at ht
      cases ht
      rfl
    · rw [hok] at hfault
      cases hfault
  · rw [Timestamp.ofMinute_of_not_isReal (mt hreal.mp hhas)] at hread
    have herror := readTimestamp_of_error hread
    refine ⟨⟨fun ⟨t, ht⟩ => ?_, fun h => absurd h hhas⟩, fun t ht => ?_, fun fault hfault => ?_⟩
    · rw [herror] at ht
      cases ht
    · rw [herror] at ht
      cases ht
    · rw [herror] at hfault
      cases hfault
      rfl

theorem readTimestamp_twice (s : String) : Audit.readTimestamp ("rc--rc--" ++ s) =
    .error (undated ("rc--rc--" ++ s) "input contains invalid characters") := by
  have htwice : "rc--rc--" ++ s = "rc--" ++ ("rc--" ++ s) := by
    rw [← String.append_assoc]
    rfl
  have hread : Timestamp.ofRcName ("rc--rc--" ++ s) = .error .invalidCharacter := by
    rw [Timestamp.ofRcName, htwice, stripRcPrefix_rcPrefix_append, toList_rcPrefix_append]
    rfl
  exact readTimestamp_of_error hread

/-- A name of the form in full, with its conventional beginning or without it, is dated exactly if
the calendar has the minute that it spells, and then this is its timestamp. Any other such name is
quoted in the fault, and so is every name with two such beginnings. -/
theorem canonical_dated_iff :
    (∀ stamp, IsStamp stamp →
      DatedBy (minuteIn stamp) stamp ∧ DatedBy (minuteIn stamp) ("rc--" ++ stamp) ∧
      ∀ t, Audit.readTimestamp ("rc--" ++ stamp) = .ok t ↔ Audit.readTimestamp stamp = .ok t) ∧
    ∀ s, Audit.readTimestamp ("rc--rc--" ++ s) =
      .error (undated ("rc--rc--" ++ s) "input contains invalid characters") := by
  refine ⟨fun stamp h => ⟨datedBy_of_isStamp h (.inl rfl), datedBy_of_isStamp h (.inr rfl),
    fun t => ?_⟩, readTimestamp_twice⟩
  have hsame : Timestamp.ofRcName ("rc--" ++ stamp) = Timestamp.ofRcName stamp :=
    (ofRcName_of_isStamp h (.inr rfl)).trans (ofRcName_of_isStamp h (.inl rfl)).symm
  unfold Audit.readTimestamp
  rw [hsame]
  cases Timestamp.ofRcName stamp <;> simp [Except.mapError]

theorem canonical_dated_iff_leapDays :
    (IsStamp "0000-02-29_23-59" ∧ minuteIn "0000-02-29_23-59" = ⟨0, 2, 29, 23, 59⟩ ∧
      ∃ t, Audit.readTimestamp "rc--0000-02-29_23-59" = .ok t ∧
        Audit.readTimestamp "0000-02-29_23-59" = .ok t ∧ t.toMinute = ⟨0, 2, 29, 23, 59⟩) ∧
    IsStamp "1900-02-29_23-59" ∧ minuteIn "1900-02-29_23-59" = ⟨1900, 2, 29, 23, 59⟩ ∧
      ¬ ∃ t, Audit.readTimestamp "rc--1900-02-29_23-59" = .ok t := by
  have hleap : minuteIn "0000-02-29_23-59" = ⟨0, 2, 29, 23, 59⟩ := by decide +kernel
  have hcommon : minuteIn "1900-02-29_23-59" = ⟨1900, 2, 29, 23, 59⟩ := by decide +kernel
  have hstampLeap : IsStamp "0000-02-29_23-59" := by decide +kernel
  have hstampCommon : IsStamp "1900-02-29_23-59" := by decide +kernel
  obtain ⟨-, hdated, hsame⟩ := canonical_dated_iff.1 _ hstampLeap
  obtain ⟨-, hundated, -⟩ := canonical_dated_iff.1 _ hstampCommon
  rw [hleap] at hdated
  rw [hcommon] at hundated
  refine ⟨⟨hstampLeap, hleap, ?_⟩, hstampCommon, hcommon, fun h => ?_⟩
  · obtain ⟨t, ht⟩ := hdated.ok_iff.mpr
      ⟨by decide, by decide, by decide, ⟨29, by decide, by decide⟩, by decide, by decide⟩
    exact ⟨t, ht, (hsame t).mp ht, hdated.fields t ht⟩
  · obtain ⟨length, hlength, hday⟩ := (hundated.ok_iff.mp h).day_le
    have hshort : (monthLengths 1900)[2 - 1]? = some 28 := by decide
    rw [hshort] at hlength
    cases hlength
    exact absurd hday (by decide)

end Calendar
end ReleaseAudit

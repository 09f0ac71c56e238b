import ReleaseAudit.Decimal.Digits

/-! Minutes of the proleptic Gregorian calendar, their order and their text `YYYY-MM-DD_hh-mm`. -/
namespace ReleaseAudit

def isLeapYear (year : Int) : Bool :=
  year % 4 = 0 && (year % 100 ≠ 0 || year % 400 = 0)

def daysInMonth (year : Int) (month : Nat) : Nat :=
  if month = 2 then if isLeapYear year then 29 else 28
  else if month = 4 ∨ month = 6 ∨ month = 9 ∨ month = 11 then 30
  else 31

theorem daysInMonth_le (year : Int) (month : Nat) : daysInMonth year month ≤ 31 := by
  unfold daysInMonth
  split <;> split <;> omega

/-- Five numbers that name a minute, whether or not there is one. -/
@[ext] structure Minute where
  year : Int
  month : Nat
  day : Nat
  hour : Nat
  minute : Nat
  deriving DecidableEq, Repr

/-- The years that timestamps reach. -/
def firstYear : Int := -262143

def lastYear : Int := 262142

/-- The calendar has this minute. -/
def Minute.IsReal (m : Minute) : Prop :=
  firstYear ≤ m.year ∧ m.year ≤ lastYear ∧ 1 ≤ m.month ∧ m.month ≤ 12 ∧ 1 ≤ m.day ∧
    m.day ≤ daysInMonth m.year m.month ∧ m.hour ≤ 23 ∧ m.minute ≤ 59

instance (m : Minute) : Decidable m.IsReal := by
  unfold Minute.IsReal
  infer_instance

structure Timestamp extends Minute where
  isReal : toMinute.IsReal
  deriving DecidableEq

namespace Timestamp

/-- The place of a timestamp in the order of time, counted in months of 31 days. -/
def rank (t : Timestamp) : Int :=
  (((t.year * 12 + (t.month - 1 : Nat)) * 31 + (t.day - 1 : Nat)) * 24 + t.hour) * 60 + t.minute

instance : LE Timestamp := ⟨fun a b => a.rank ≤ b.rank⟩

instance : LT Timestamp := ⟨fun a b => a.rank < b.rank⟩

instance (a b : Timestamp) : Decidable (a ≤ b) := inferInstanceAs (Decidable (a.rank ≤ b.rank))

instance (a b : Timestamp) : Decidable (a < b) := inferInstanceAs (Decidable (a.rank < b.rank))

instance : Ord Timestamp := ⟨fun a b => compare a.rank b.rank⟩

theorem lt_iff_rank {a b : Timestamp} : a < b ↔ a.rank < b.rank := Iff.rfl

theorem le_trans {a b c : Timestamp} (h : a ≤ b) (k : b ≤ c) : a ≤ c := Int.le_trans h k

theorem not_le {a b : Timestamp} : ¬ a ≤ b ↔ b < a := Int.not_le

theorem rank_injective {a b : Timestamp} (h : a.rank = b.rank) : a = b := by
  have ha := a.isReal
  have hb := b.isReal
  have la := daysInMonth_le a.year a.month
  have lb := daysInMonth_le b.year b.month
  simp only [Minute.IsReal] at ha hb
  simp only [rank] at h
  have hm : a.toMinute = b.toMinute := by
    apply Minute.ext <;> omega
  cases a
  cases b
  simpa using hm

end Timestamp

/-- Four digits for the years 0 to 9999; other years carry a sign. -/
def yearText (year : Int) : List Char :=
  if 0 ≤ year ∧ year ≤ 9999 then Decimal.padded 4 year.toNat
  else (if year < 0 then '-' else '+') :: Decimal.padded 4 year.natAbs

def Minute.text (m : Minute) : List Char :=
  yearText m.year ++ '-' :: Decimal.padded 2 m.month ++ '-' :: Decimal.padded 2 m.day ++
    '_' :: Decimal.padded 2 m.hour ++ '-' :: Decimal.padded 2 m.minute

instance : ToString Timestamp := ⟨fun t => String.ofList t.text⟩

end ReleaseAudit

/-!
# The calendar

Dates of the proleptic Gregorian calendar as numbers of days from 1 January of year 1, and back.
Every 400 years have the same 146097 days; within them the last day of a century cycle, of a
four-year cycle and of a leap year belongs to the last year of the cycle.
-/
namespace UserDirectory.Time

structure Date where
  year : Nat
  month : Nat
  day : Nat
deriving DecidableEq, Repr

def isLeap (year : Nat) : Bool := year % 4 == 0 && (year % 100 != 0 || year % 400 == 0)

def monthLengths (leap : Bool) : List Nat :=
  [31, if leap then 29 else 28, 31, 30, 31, 30, 31, 31, 30, 31, 30, 31]

/-- The days of some months. -/
def total (lengths : List Nat) : Nat := lengths.foldr (· + ·) 0

def yearLength (year : Nat) : Nat := if isLeap year then 366 else 365

theorem total_monthLengths (year : Nat) : total (monthLengths (isLeap year)) = yearLength year := by
  unfold yearLength
  cases isLeap year <;> rfl

/-- Days from year 1 to the beginning of a year. -/
def daysBeforeYear (year : Nat) : Nat :=
  (year - 1) * 365 + (year - 1) / 4 - (year - 1) / 100 + (year - 1) / 400

theorem daysBeforeYear_succ {year : Nat} (h : 1 ≤ year) :
    daysBeforeYear (year + 1) = daysBeforeYear year + yearLength year := by
  obtain ⟨y, rfl⟩ : ∃ y, year = y + 1 := ⟨year - 1, by omega⟩
  have four : (y + 1) / 4 = y / 4 + if (y + 1) % 4 = 0 then 1 else 0 := by split <;> omega
  have hundred : (y + 1) / 100 = y / 100 + if (y + 1) % 100 = 0 then 1 else 0 := by split <;> omega
  have era : (y + 1) / 400 = y / 400 + if (y + 1) % 400 = 0 then 1 else 0 := by split <;> omega
  have of100 : (y + 1) % 100 = 0 → (y + 1) % 4 = 0 := by omega
  have of400 : (y + 1) % 400 = 0 → (y + 1) % 100 = 0 := by omega
  have small : y / 100 ≤ y := Nat.div_le_self y 100
  simp only [daysBeforeYear, yearLength, isLeap, Nat.add_sub_cancel, four, hundred, era,
    Bool.and_eq_true, Bool.or_eq_true, beq_iff_eq, bne_iff_ne]
  split <;> split <;> split <;> split <;> simp_all <;> omega

def daysBeforeMonth (leap : Bool) (month : Nat) : Nat :=
  total ((monthLengths leap).take (month - 1))

/-- Days from 1 January of year 1. -/
def Date.number (d : Date) : Nat :=
  daysBeforeYear d.year + daysBeforeMonth (isLeap d.year) d.month + (d.day - 1)

/-- The month and the day of the month, given the days that have passed since the first of the
months. -/
def monthAndDay : List Nat → Nat → Nat × Nat
  | [], passed => (1, passed + 1)
  | length :: rest, passed =>
    if passed < length then (1, passed + 1)
    else ((monthAndDay rest (passed - length)).1 + 1, (monthAndDay rest (passed - length)).2)

/-- The year that a day lies in, and the days of that year before it. -/
def yearAndDay (number : Nat) : Nat × Nat :=
  let inEra := number % 146097
  let century := min 3 (inEra / 36524)
  let inCentury := inEra - century * 36524
  let inCycle := inCentury % 1461
  let year := min 3 (inCycle / 365)
  (number / 146097 * 400 + century * 100 + inCentury / 1461 * 4 + year + 1, inCycle - year * 365)

def Date.ofNumber (number : Nat) : Date :=
  let (year, passed) := yearAndDay number
  let (month, day) := monthAndDay (monthLengths (isLeap year)) passed
  ⟨year, month, day⟩

end UserDirectory.Time

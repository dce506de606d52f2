import UserDirectory.Number.Numeral
import UserDirectory.Time.Calendar

/-!
# Instants

An instant is a whole number of microseconds from the beginning of 1970 in universal time, within
the years 1 to 9999. A civil time gives the same instant by its calendar fields.
-/
namespace UserDirectory.Time

open Number

/-- A date and a time of day. -/
structure Civil where
  date : Date
  hour : Nat
  minute : Nat
  second : Nat
  micro : Nat
deriving DecidableEq, Repr

/-- The number of the day on which 1970 begins. -/
def epochDay : Nat := 719162

def microsPerDay : Nat := 86400000000

/-- Microseconds since midnight. -/
def Civil.timeOfDay (c : Civil) : Nat :=
  ((c.hour * 60 + c.minute) * 60 + c.second) * 1000000 + c.micro

/-- Microseconds from the beginning of 1970, the civil time being universal time. -/
def Civil.micros (c : Civil) : Int :=
  ((c.date.number : Int) - epochDay) * microsPerDay + c.timeOfDay

def Civil.ofMicros (n : Int) : Civil :=
  let time := (n % microsPerDay).toNat
  ⟨.ofNumber (n / microsPerDay + epochDay).toNat,
    time / 3600000000, time / 60000000 % 60, time / 1000000 % 60, time % 1000000⟩

def firstMicros : Int := -62135596800000000
def lastMicros : Int := 253402300799999999

theorem micros_first : (Civil.mk ⟨1, 1, 1⟩ 0 0 0 0).micros = firstMicros := by decide

theorem micros_last : (Civil.mk ⟨9999, 12, 31⟩ 23 59 59 999999).micros = lastMicros := by decide

structure Instant where
  micros : Int
  first_le : firstMicros ≤ micros
  le_last : micros ≤ lastMicros
deriving DecidableEq

/-- What is said of a number of microseconds that is no instant. -/
def noInstantMessage : String := "date value out of range"

namespace Instant

theorem eq_of_micros_eq {s t : Instant} (h : s.micros = t.micros) : s = t := by
  cases s
  cases t
  cases h
  rfl

def ofMicros? (n : Int) : Option Instant :=
  if h : firstMicros ≤ n ∧ n ≤ lastMicros then some ⟨n, h.1, h.2⟩ else none

@[simp] theorem ofMicros?_micros (t : Instant) : ofMicros? t.micros = some t := by
  simp [ofMicros?, t.first_le, t.le_last]

theorem ofMicros?_eq_some_iff {n : Int} {t : Instant} : ofMicros? n = some t ↔ t.micros = n := by
  constructor
  · intro h
    simp only [ofMicros?] at h
    split at h
    · cases h; rfl
    · simp at h
  · rintro rfl
    exact ofMicros?_micros t

def civil (t : Instant) : Civil := .ofMicros t.micros

end Instant

/-! ## Local times -/

/-- A civil time and by how many microseconds it is ahead of universal time. A time that does not
say so is universal time. -/
structure LocalTime where
  civil : Civil
  offset : Option Int := none
deriving DecidableEq, Repr

namespace LocalTime

/-- Microseconds from the beginning of 1970 in universal time. -/
def micros (t : LocalTime) : Int := t.civil.micros - t.offset.getD 0

def instant? (t : LocalTime) : Option Instant := Instant.ofMicros? t.micros

end LocalTime

/-! ## Texts of dates and times -/

def dateText (d : Date) : List Char :=
  padded 4 d.year ++ '-' :: padded 2 d.month ++ '-' :: padded 2 d.day

def timeText (c : Civil) : List Char :=
  padded 2 c.hour ++ ':' :: padded 2 c.minute ++ ':' :: padded 2 c.second

/-- The fraction of a second is written only if there is one. -/
def Instant.isoText (t : Instant) : String :=
  let c := t.civil
  let fraction := if c.micro = 0 then [] else '.' :: padded 6 c.micro
  String.ofList (dateText c.date ++ 'T' :: timeText c ++ fraction) ++ "+00:00"

end UserDirectory.Time

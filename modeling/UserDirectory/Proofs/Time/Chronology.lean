import Mathlib.Data.List.Lex
import UserDirectory.Proofs.Time.Succession

/-!
# The order of civil times

Civil times are compared field by field from the year down, and their numbers of microseconds are in
the same order. A local time shows a civil time of universal time unless that lies outside the years
1 to 9999; it is the one of the local time's number, and counting on by the offset leads from it to
what the local time shows.
-/
namespace UserDirectory.Time

/-! ## Fields -/

/-- The fields of a civil time, which are compared in this order. -/
def Civil.fields (c : Civil) : List Nat :=
  [c.date.year, c.date.month, c.date.day, c.hour, c.minute, c.second, c.micro]

theorem Civil.fields_injective {c d : Civil} (h : c.fields = d.fields) : c = d := by
  obtain ⟨⟨year, month, day⟩, hour, minute, second, micro⟩ := c
  obtain ⟨⟨year', month', day'⟩, hour', minute', second', micro'⟩ := d
  simp only [Civil.fields, List.cons.injEq, and_true] at h
  obtain ⟨rfl, rfl, rfl, rfl, rfl, rfl, rfl⟩ := h
  rfl

theorem Civil.fields_lt_iff {c d : Civil} : c.fields < d.fields ↔
    (c.date.year < d.date.year ∨ c.date.year = d.date.year ∧ (c.date.month < d.date.month ∨
      c.date.month = d.date.month ∧ c.date.day < d.date.day)) ∨
    c.date = d.date ∧
      (c.hour < d.hour ∨ c.hour = d.hour ∧ (c.minute < d.minute ∨ c.minute = d.minute ∧
      (c.second < d.second ∨ c.second = d.second ∧ c.micro < d.micro))) := by
  obtain ⟨⟨year, month, day⟩, hour, minute, second, micro⟩ := c
  obtain ⟨⟨year', month', day'⟩, hour', minute', second', micro'⟩ := d
  simp only [Civil.fields, List.cons_lt_cons_iff, List.not_lt_nil, and_false, or_false,
    Date.mk.injEq]
  omega

theorem total_take_mono (lengths : List Nat) {k m : Nat} (h : k ≤ m) :
    total (lengths.take k) ≤ total (lengths.take m) := by
  induction m, h using Nat.le_induction with
  | base => exact Nat.le_refl _
  | succ m _ ih =>
    rw [total_take_succ]
    omega

/-- Dates in order have their numbers in order. -/
theorem Date.number_lt_of_before {d e : Date} (hd : d.IsValid) (he : e.IsValid)
    (before : d.year < e.year ∨ d.year = e.year ∧
      (d.month < e.month ∨ d.month = e.month ∧ d.day < e.day)) :
    d.number < e.number := by
  obtain ⟨year, month, day⟩ := d
  obtain ⟨year', month', day'⟩ := e
  obtain ⟨year_pos, month_pos, day_pos, day_le⟩ := hd
  obtain ⟨-, month_pos', day_pos', -⟩ := he
  simp only at year_pos month_pos day_pos day_le month_pos' day_pos' before
  simp only [Date.number, daysBeforeMonth]
  rcases before with years | ⟨rfl, months | ⟨rfl, days⟩⟩
  · have inMonth : day - 1 < (monthLengths (isLeap year)).getD (month - 1) 0 := by omega
    have inYear := total_take_add_lt inMonth
    rw [total_monthLengths] at inYear
    have ends := daysBeforeYear_add_le year_pos years
    omega
  · have inMonth := total_take_succ (monthLengths (isLeap year)) (month - 1)
    have through := total_take_mono (monthLengths (isLeap year))
      (show month - 1 + 1 ≤ month' - 1 by omega)
    omega
  · omega

theorem Civil.timeOfDay_lt {c : Civil} (h : c.IsValid) : c.timeOfDay < microsPerDay := by
  obtain ⟨-, hour, minute, second, micro⟩ := h
  simp only [Civil.timeOfDay, microsPerDay]
  omega

theorem Civil.micros_lt_of_fields_lt {c d : Civil} (hc : c.IsValid) (hd : d.IsValid)
    (h : c.fields < d.fields) :
    c.micros < d.micros := by
  rcases Civil.fields_lt_iff.1 h with dates | ⟨dates, times⟩
  · have numbers := Date.number_lt_of_before hc.date hd.date dates
    have inDay := Civil.timeOfDay_lt hc
    simp only [Civil.micros, microsPerDay] at inDay ⊢
    omega
  · obtain ⟨-, -, minute, second, micro⟩ := hc
    obtain ⟨-, -, minute', second', micro'⟩ := hd
    simp only [Civil.micros, dates, Civil.timeOfDay]
    omega

theorem Civil.micros_lt_iff {c d : Civil} (hc : c.IsValid) (hd : d.IsValid) :
    c.micros < d.micros ↔ c.fields < d.fields := by
  refine ⟨fun less => ?_, Civil.micros_lt_of_fields_lt hc hd⟩
  rcases lt_trichotomy c.fields d.fields with before | same | behind
  · exact before
  · rw [Civil.fields_injective same] at less
    exact absurd less (Int.lt_irrefl _)
  · exact absurd (Int.lt_trans less (Civil.micros_lt_of_fields_lt hd hc behind)) (Int.lt_irrefl _)

/-! ## Instants -/

theorem Instant.isValid_civil (t : Instant) : t.civil.IsValid := isValid_ofMicros t.micros

@[simp] theorem Instant.micros_civil (t : Instant) : t.civil.micros = t.micros :=
  micros_ofMicros t.first_le

theorem Instant.civil_inj {s t : Instant} : s.civil = t.civil ↔ s.micros = t.micros := by
  constructor
  · intro same
    rw [← s.micros_civil, same, t.micros_civil]
  · intro same
    rw [Instant.eq_of_micros_eq same]

theorem Instant.micros_lt_iff {s t : Instant} :
    s.micros < t.micros ↔ s.civil.fields < t.civil.fields := by
  rw [← Civil.micros_lt_iff s.isValid_civil t.isValid_civil, s.micros_civil, t.micros_civil]

/-! ## Universal time -/

/-- What a local time shows in universal time: the offset is taken off the time of day, and whole
days are carried over to the date, which has to lie in the years 1 to 9999. -/
def LocalTime.utc? (t : LocalTime) : Option Civil :=
  let moved : Int := t.civil.timeOfDay - t.offset.getD 0
  let day : Int := t.civil.date.number + moved / microsPerDay
  let time := (moved % microsPerDay).toNat
  let date := Date.ofNumber day.toNat
  if 0 ≤ day ∧ date.year ≤ 9999 then
    some ⟨date, time / 3600000000, time / 60000000 % 60, time / 1000000 % 60, time % 1000000⟩
  else none

theorem Date.year_ofNumber_le_iff {year number : Nat} (h : 1 ≤ year) :
    (Date.ofNumber number).year ≤ year ↔ number < daysBeforeYear (year + 1) := by
  obtain ⟨pos, inYear, days⟩ := yearAndDay_spec number
  have found : (Date.ofNumber number).year = (yearAndDay number).1 := rfl
  rw [found]
  generalize yearAndDay number = r at *
  constructor
  · intro le
    have later : r.1 < year + 1 := Nat.lt_succ_of_le le
    have ends := daysBeforeYear_add_le pos later
    omega
  · intro before
    by_contra beyond
    rcases Nat.lt_or_ge (year + 1) r.1 with less | le
    · have ends := daysBeforeYear_add_le (by omega) less
      omega
    · obtain same : r.1 = year + 1 := by omega
      rw [same] at days
      omega

/-- What is shown in universal time is what the number of microseconds stands for. -/
theorem LocalTime.utc?_eq (t : LocalTime) : t.utc? = t.instant?.map Instant.civil := by
  obtain ⟨moved, hmoved⟩ : ∃ moved : Int, moved = t.civil.timeOfDay - t.offset.getD 0 := ⟨_, rfl⟩
  have micros : t.micros = ((t.civil.date.number : Int) - epochDay) * microsPerDay + moved := by
    simp only [LocalTime.micros, Civil.micros]
    omega
  have day : t.micros / microsPerDay + epochDay = t.civil.date.number + moved / microsPerDay := by
    rw [micros]
    simp only [microsPerDay]
    omega
  have time : t.micros % microsPerDay = moved % microsPerDay := by
    rw [micros]
    simp only [microsPerDay]
    omega
  have years := @Date.year_ofNumber_le_iff 9999
    (t.civil.date.number + moved / microsPerDay).toNat (by decide)
  have last : daysBeforeYear (9999 + 1) = 3652059 := rfl
  have range : firstMicros ≤ t.micros ∧ t.micros ≤ lastMicros ↔
      0 ≤ t.civil.date.number + moved / microsPerDay ∧
        (Date.ofNumber (t.civil.date.number + moved / microsPerDay).toNat).year ≤ 9999 := by
    rw [years, ← day, last]
    simp only [firstMicros, lastMicros, microsPerDay, epochDay]
    omega
  simp only [LocalTime.utc?, LocalTime.instant?, Instant.ofMicros?, ← hmoved]
  by_cases inRange : firstMicros ≤ t.micros ∧ t.micros ≤ lastMicros
  · rw [if_pos (range.1 inRange), dif_pos inRange]
    simp only [Option.map_some, Instant.civil, Civil.ofMicros, day, time]
  · rw [if_neg (fun h => inRange (range.2 h)), dif_neg inRange]
    rfl

/-- Universal time is in the calendar, and the offset is what one counts from it to the local
time. -/
theorem LocalTime.isAhead_utc {t : LocalTime} {c : Civil} (valid : t.civil.IsValid)
    (shown : t.utc? = some c) :
    c.IsValid ∧ c.micros = t.micros ∧ t.civil.IsAhead (t.offset.getD 0) c := by
  rw [LocalTime.utc?_eq] at shown
  obtain ⟨i, found, rfl⟩ := Option.map_eq_some_iff.1 shown
  have number : i.civil.micros = t.micros :=
    i.micros_civil.trans (Instant.ofMicros?_eq_some_iff.1 found)
  refine ⟨i.isValid_civil, number, (Civil.isAhead_iff valid i.isValid_civil).2 ?_⟩
  rw [number, LocalTime.micros]
  omega

end UserDirectory.Time

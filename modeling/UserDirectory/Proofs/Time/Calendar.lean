import UserDirectory.Time.Instant

/-!
# The calendar is a numbering

Dates and numbers of days, and civil times and numbers of microseconds, are the same thing: each
direction undoes the other. A number finds its year by the cycles of 400, 100, 4 and 1 years; that
the year found is the only one follows from the order of the years.
-/
namespace UserDirectory.Time

/-! ## Months -/

@[simp] theorem total_cons (length : Nat) (lengths : List Nat) :
    total (length :: lengths) = length + total lengths :=
  rfl

/-- The month and the day that are found lie in the months, and the days before them are those that
have passed. -/
theorem exists_monthAndDay {lengths : List Nat} {passed : Nat} (h : passed < total lengths) :
    ∃ k d, monthAndDay lengths passed = (k + 1, d + 1) ∧ k < lengths.length ∧ d < lengths.getD k 0 ∧
      total (lengths.take k) + d = passed := by
  fun_induction monthAndDay lengths passed with
  | case1 => simp [total] at h
  | case2 length rest passed first =>
    exact ⟨0, passed, rfl, by simp, by simpa using first, by simp [total]⟩
  | case3 length rest passed later ih =>
    obtain ⟨k, d, found, hk, hd, before⟩ := ih (by simp at h; omega)
    refine ⟨k + 1, d, by simp [found], by simpa using hk, by simpa using hd, ?_⟩
    simp only [List.take_succ_cons, total_cons]
    omega

theorem monthAndDay_total {lengths : List Nat} {k d : Nat} (hd : d < lengths.getD k 0) :
    monthAndDay lengths (total (lengths.take k) + d) = (k + 1, d + 1) := by
  induction lengths generalizing k with
  | nil => simp at hd
  | cons length rest ih =>
    cases k with
    | zero =>
      have first : d < length := by simpa using hd
      simp [monthAndDay, total, first]
    | succ k =>
      have found := ih (k := k) (by simpa using hd)
      have later : ¬ length + total (rest.take k) + d < length := by omega
      have rest' : length + total (rest.take k) + d - length = total (rest.take k) + d := by omega
      simp [monthAndDay, later, rest', found]

theorem total_take_add_lt {lengths : List Nat} {k d : Nat} (hd : d < lengths.getD k 0) :
    total (lengths.take k) + d < total lengths := by
  induction lengths generalizing k with
  | nil => simp at hd
  | cons length rest ih =>
    cases k with
    | zero =>
      have first : d < length := by simpa using hd
      simp [total]
      omega
    | succ k =>
      have less := ih (k := k) (by simpa using hd)
      simp only [List.take_succ_cons, total_cons]
      omega

/-! ## Years -/

/-- The days before a year that is given by its place in the cycles. -/
theorem daysBeforeYear_cycles {era century cycle year : Nat} (hc : century ≤ 3) (hq : cycle ≤ 24)
    (hy : year ≤ 3) :
    daysBeforeYear (era * 400 + century * 100 + cycle * 4 + year + 1) =
      era * 146097 + century * 36524 + cycle * 1461 + year * 365 := by
  have four : (era * 400 + century * 100 + cycle * 4 + year) / 4 =
    era * 100 + century * 25 + cycle := by omega
  have hundred : (era * 400 + century * 100 + cycle * 4 + year) / 100 = era * 4 + century := by
    omega
  have fourHundred : (era * 400 + century * 100 + cycle * 4 + year) / 400 = era := by omega
  simp only [daysBeforeYear, Nat.add_sub_cancel, four, hundred, fourHundred]
  omega

/-- The fourth year of a cycle is a leap year, but for the last cycle of a century that does not end
an era. -/
theorem isLeap_fourth {era century cycle : Nat} (hq : cycle ≤ 24) (h : cycle < 24 ∨ century = 3) :
    isLeap (era * 400 + century * 100 + cycle * 4 + 3 + 1) = true := by
  have four : (era * 400 + century * 100 + cycle * 4 + 3 + 1) % 4 = 0 := by omega
  simp only [isLeap, Bool.and_eq_true, Bool.or_eq_true, beq_iff_eq, bne_iff_ne]
  refine ⟨four, ?_⟩
  rcases h with h | h
  · exact .inl (by omega)
  · omega

theorem le_yearLength (year : Nat) : 365 ≤ yearLength year := by
  unfold yearLength
  split <;> omega

theorem yearAndDay_spec (number : Nat) :
    1 ≤ (yearAndDay number).1 ∧ (yearAndDay number).2 < yearLength (yearAndDay number).1 ∧
      daysBeforeYear (yearAndDay number).1 + (yearAndDay number).2 = number := by
  obtain ⟨era, hera⟩ : ∃ era, era = number / 146097 := ⟨_, rfl⟩
  obtain ⟨century, hcentury⟩ : ∃ century, century = min 3 (number % 146097 / 36524) := ⟨_, rfl⟩
  obtain ⟨days, hdays⟩ : ∃ days, days = number % 146097 - century * 36524 := ⟨_, rfl⟩
  obtain ⟨year, hyear⟩ : ∃ year, year = min 3 (days % 1461 / 365) := ⟨_, rfl⟩
  have found : yearAndDay number =
      (era * 400 + century * 100 + days / 1461 * 4 + year + 1, days % 1461 - year * 365) := by
    simp only [yearAndDay, hera, hcentury, hdays, hyear]
  have inCentury : days < 36524 ∨ (century = 3 ∧ days < 36525) := by omega
  have hc : century ≤ 3 := by omega
  have hq : days / 1461 ≤ 24 := by omega
  have hy : year ≤ 3 := by omega
  rw [found]
  refine ⟨by simp only; omega, ?_, ?_⟩
  · -- Only the last day of a cycle is the 366th of its year.
    rcases Nat.lt_or_ge (days % 1461 - year * 365) 365 with short | long
    · exact Nat.lt_of_lt_of_le short (le_yearLength _)
    · obtain rfl : year = 3 := by omega
      have leap : isLeap (era * 400 + century * 100 + days / 1461 * 4 + 3 + 1) = true :=
        isLeap_fourth hq (by omega)
      simp only [yearLength, leap, if_true]
      omega
  · rw [daysBeforeYear_cycles hc hq hy]
    omega

/-- The years after a year begin no earlier than it ends. -/
theorem daysBeforeYear_add_le {year later : Nat} (h : 1 ≤ year) (hl : year < later) :
    daysBeforeYear year + yearLength year ≤ daysBeforeYear later := by
  induction later with
  | zero => omega
  | succ later ih =>
    rcases Nat.lt_succ_iff_lt_or_eq.1 hl with hl | rfl
    · have before := ih hl
      rw [daysBeforeYear_succ (by omega)]
      omega
    · exact Nat.le_of_eq (daysBeforeYear_succ h).symm

theorem yearAndDay_daysBeforeYear {year passed : Nat} (h : 1 ≤ year)
    (hp : passed < yearLength year) :
    yearAndDay (daysBeforeYear year + passed) = (year, passed) := by
  obtain ⟨found, inYear, same⟩ := yearAndDay_spec (daysBeforeYear year + passed)
  generalize yearAndDay (daysBeforeYear year + passed) = r at *
  rcases Nat.lt_trichotomy r.1 year with lt | eq | gt
  · have ends := daysBeforeYear_add_le found lt
    omega
  · refine Prod.ext eq ?_
    rw [eq] at same
    omega
  · have ends := daysBeforeYear_add_le h gt
    omega

/-! ## Dates -/

/-- A day of the calendar, from year 1 on. -/
structure Date.IsValid (d : Date) : Prop where
  year_pos : 1 ≤ d.year
  month_pos : 1 ≤ d.month
  day_pos : 1 ≤ d.day
  day_le : d.day ≤ (monthLengths (isLeap d.year)).getD (d.month - 1) 0

theorem exists_ofNumber (number : Nat) :
    ∃ year k d, Date.ofNumber number = ⟨year, k + 1, d + 1⟩ ∧ 1 ≤ year ∧
      d < (monthLengths (isLeap year)).getD k 0 ∧
      daysBeforeYear year + (total ((monthLengths (isLeap year)).take k) + d) = number := by
  obtain ⟨pos, inYear, days⟩ := yearAndDay_spec number
  rw [← total_monthLengths] at inYear
  obtain ⟨k, d, found, -, hd, before⟩ := exists_monthAndDay inYear
  exact ⟨(yearAndDay number).1, k, d, by simp only [Date.ofNumber, found], pos,
    hd, by rw [before, days]⟩

theorem isValid_ofNumber (number : Nat) : (Date.ofNumber number).IsValid := by
  obtain ⟨year, k, d, found, pos, hd, -⟩ := exists_ofNumber number
  rw [found]
  exact ⟨pos, Nat.succ_pos k, Nat.succ_pos d, hd⟩

theorem number_ofNumber (number : Nat) : (Date.ofNumber number).number = number := by
  obtain ⟨year, k, d, found, -, -, days⟩ := exists_ofNumber number
  rw [found]
  simp only [Date.number, daysBeforeMonth, Nat.add_sub_cancel]
  omega

theorem ofNumber_number {date : Date} (h : date.IsValid) : Date.ofNumber date.number = date := by
  obtain ⟨year, month, day⟩ := date
  obtain ⟨pos, month_pos, day_pos, day_le⟩ := h
  simp only at pos month_pos day_pos day_le
  obtain ⟨k, rfl⟩ : ∃ k, month = k + 1 := ⟨month - 1, by omega⟩
  obtain ⟨d, rfl⟩ : ∃ d, day = d + 1 := ⟨day - 1, by omega⟩
  rw [Nat.add_sub_cancel] at day_le
  have inYear := total_take_add_lt (Nat.lt_of_succ_le day_le)
  rw [total_monthLengths] at inYear
  simp only [Date.number, daysBeforeMonth, Date.ofNumber, Nat.add_sub_cancel, Nat.add_assoc]
  rw [yearAndDay_daysBeforeYear pos inYear, monthAndDay_total (Nat.lt_of_succ_le day_le)]

/-! ## Civil times -/

structure Civil.IsValid (c : Civil) : Prop where
  date : c.date.IsValid
  hour_lt : c.hour < 24
  minute_lt : c.minute < 60
  second_lt : c.second < 60
  micro_lt : c.micro < 1000000

theorem isValid_ofMicros (n : Int) : (Civil.ofMicros n).IsValid := by
  refine ⟨isValid_ofNumber _, ?_, ?_, ?_, ?_⟩ <;> simp only [Civil.ofMicros, microsPerDay] <;> omega

/-- The civil time of a number of microseconds has this number, from year 1 on. -/
theorem micros_ofMicros {n : Int} (h : firstMicros ≤ n) : (Civil.ofMicros n).micros = n := by
  simp only [firstMicros] at h
  simp only [Civil.micros, Civil.ofMicros, Civil.timeOfDay, number_ofNumber, microsPerDay, epochDay]
  omega

theorem ofMicros_micros {c : Civil} (h : c.IsValid) : Civil.ofMicros c.micros = c := by
  obtain ⟨date, hour, minute, second, micro⟩ := c
  obtain ⟨hdate, hour_lt, minute_lt, second_lt, micro_lt⟩ := h
  simp only at hdate hour_lt minute_lt second_lt micro_lt
  obtain ⟨time, htime⟩ : ∃ time, time = ((hour * 60 + minute) * 60 + second) * 1000000 + micro :=
    ⟨_, rfl⟩
  have bound : time < 86400000000 := by omega
  have sum : (Civil.mk date hour minute second micro).micros = ((date.number : Int) - epochDay) *
      microsPerDay + time := by
    rw [htime]
    rfl
  generalize (Civil.mk date hour minute second micro).micros = n at sum ⊢
  have day : n / microsPerDay + epochDay = date.number := by
    rw [sum]
    simp only [microsPerDay]
    omega
  have rest : (n % microsPerDay).toNat = time := by
    rw [sum]
    simp only [microsPerDay]
    omega
  simp only [Civil.ofMicros, day, rest, Int.toNat_natCast, ofNumber_number hdate]
  congr 1 <;> omega

end UserDirectory.Time

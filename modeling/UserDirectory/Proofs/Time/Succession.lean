import Mathlib.Data.List.GetD
import Mathlib.Logic.Function.Iterate
import UserDirectory.Proofs.Time.Calendar

/-!
# The calendar counted on

The next day and the next microsecond by the calendar alone: a field that is full begins anew and
the field before it goes on by one. The numbers of days and of microseconds go on by one with them,
so they are what is counted on the calendar, and two civil times have the same number only if they
are the same.
-/
namespace UserDirectory.Time

/-! ## Days -/

/-- The last day of the month that a date lies in. -/
def Date.lastDay (d : Date) : Nat := (monthLengths (isLeap d.year)).getD (d.month - 1) 0

def Date.next (d : Date) : Date :=
  if d.day < d.lastDay then { d with day := d.day + 1 }
  else if d.month < 12 then ⟨d.year, d.month + 1, 1⟩
  else ⟨d.year + 1, 1, 1⟩

variable {d : Date} {c : Civil}

theorem monthLengths_pos {leap : Bool} {k : Nat} (h : k < 12) :
    0 < (monthLengths leap).getD k 0 := by
  revert k
  cases leap <;> decide

theorem Date.IsValid.month_le (h : d.IsValid) : d.month ≤ 12 := by
  by_contra beyond
  have none : (monthLengths (isLeap d.year)).getD (d.month - 1) 0 = 0 :=
    List.getD_eq_default _ _ (show 12 ≤ d.month - 1 by omega)
  have last := h.day_le
  have first := h.day_pos
  omega

theorem Date.isValid_next (h : d.IsValid) : d.next.IsValid := by
  have first := h.day_pos
  have month := h.month_pos
  have year := h.year_pos
  unfold Date.next
  split
  · rename_i inMonth
    exact ⟨year, month, by simp only; omega, inMonth⟩
  · split
    · rename_i inYear
      exact ⟨year, by simp only; omega, Nat.le_refl 1, monthLengths_pos (by simp only; omega)⟩
    · exact ⟨by simp only; omega, Nat.le_refl 1, Nat.le_refl 1,
        monthLengths_pos (k := 0) (by decide)⟩

theorem total_take_succ (lengths : List Nat) (k : Nat) :
    total (lengths.take (k + 1)) = total (lengths.take k) + lengths.getD k 0 := by
  induction lengths generalizing k with
  | nil => simp [total]
  | cons length rest ih =>
    cases k with
    | zero => simp [total]
    | succ k =>
      rw [List.take_succ_cons, List.take_succ_cons, total_cons, total_cons, ih, List.getD_cons_succ]
      omega

/-- The next day has the next number. -/
theorem Date.number_next (h : d.IsValid) : d.next.number = d.number + 1 := by
  obtain ⟨year, month, day⟩ := d
  have months := h.month_le
  obtain ⟨year_pos, month_pos, day_pos, day_le⟩ := h
  simp only at year_pos month_pos day_pos day_le months
  obtain ⟨k, rfl⟩ : ∃ k, month = k + 1 := ⟨month - 1, by omega⟩
  have through := total_take_succ (monthLengths (isLeap year)) k
  simp only [Date.next, Date.lastDay, Nat.add_sub_cancel] at day_le ⊢
  split
  · simp only [Date.number]
    omega
  · split
    · simp only [Date.number, daysBeforeMonth, Nat.add_sub_cancel, through]
      omega
    · -- The last day of the last month: all months of the year have passed.
      obtain rfl : k = 11 := by omega
      have whole : total ((monthLengths (isLeap year)).take (11 + 1)) = yearLength year :=
        (congrArg total (List.take_of_length_le (Nat.le_refl 12))).trans (total_monthLengths year)
      have start : daysBeforeMonth (isLeap (year + 1)) 1 = 0 := rfl
      have before : daysBeforeMonth (isLeap year) (11 + 1) =
        total ((monthLengths (isLeap year)).take 11) := rfl
      simp only [Date.number, daysBeforeYear_succ year_pos]
      omega

/-! ## Microseconds -/

def Civil.next (c : Civil) : Civil :=
  if c.micro + 1 < 1000000 then { c with micro := c.micro + 1 }
  else if c.second + 1 < 60 then { c with second := c.second + 1, micro := 0 }
  else if c.minute + 1 < 60 then { c with minute := c.minute + 1, second := 0, micro := 0 }
  else if c.hour + 1 < 24 then { c with hour := c.hour + 1, minute := 0, second := 0, micro := 0 }
  else ⟨c.date.next, 0, 0, 0, 0⟩

theorem Civil.isValid_next (h : c.IsValid) : c.next.IsValid := by
  obtain ⟨date, hour, minute, second, micro⟩ := h
  have begun : (0 < 24 ∧ 0 < 60) ∧ 0 < 1000000 := by decide
  unfold Civil.next
  split
  · rename_i inSecond
    exact ⟨date, hour, minute, second, inSecond⟩
  split
  · rename_i inMinute
    exact ⟨date, hour, minute, inMinute, begun.2⟩
  split
  · rename_i inHour
    exact ⟨date, hour, inHour, begun.1.2, begun.2⟩
  split
  · rename_i inDay
    exact ⟨date, inDay, begun.1.2, begun.1.2, begun.2⟩
  · exact ⟨Date.isValid_next date, begun.1.1, begun.1.2, begun.1.2, begun.2⟩

/-- The next microsecond has the next number. -/
theorem Civil.micros_next (h : c.IsValid) : c.next.micros = c.micros + 1 := by
  have tomorrow := Date.number_next h.date
  obtain ⟨-, hour, minute, second, micro⟩ := h
  unfold Civil.next
  split
  · simp only [Civil.micros, Civil.timeOfDay]
    omega
  split
  · simp only [Civil.micros, Civil.timeOfDay]
    omega
  split
  · simp only [Civil.micros, Civil.timeOfDay]
    omega
  split
  · simp only [Civil.micros, Civil.timeOfDay]
    omega
  · simp only [Civil.micros, Civil.timeOfDay, tomorrow, microsPerDay]
    omega

/-- After `n` steps the number is larger by `n`. -/
theorem Civil.iterate_next (h : c.IsValid) (n : Nat) :
    (Civil.next^[n] c).IsValid ∧ (Civil.next^[n] c).micros = c.micros + n := by
  induction n with
  | zero => exact ⟨h, (Int.add_zero _).symm⟩
  | succ n ih =>
    obtain ⟨valid, micros⟩ := ih
    rw [Function.iterate_succ_apply']
    refine ⟨Civil.isValid_next valid, ?_⟩
    rw [Civil.micros_next valid, micros]
    omega

theorem Civil.eq_of_micros_eq {c' : Civil} (h : c.IsValid) (h' : c'.IsValid)
    (same : c.micros = c'.micros) : c = c' := by
  rw [← ofMicros_micros h, same, ofMicros_micros h']

/-- From `c'` one counts `n` microseconds on to `c`, or for a negative `n` from `c` on to `c'`. -/
def Civil.IsAhead (c : Civil) (n : Int) (c' : Civil) : Prop :=
  if 0 ≤ n then Civil.next^[n.toNat] c' = c else Civil.next^[(-n).toNat] c = c'

theorem Civil.isAhead_iff {n : Int} {c' : Civil} (h : c.IsValid) (h' : c'.IsValid) :
    c.IsAhead n c' ↔ c.micros = c'.micros + n := by
  unfold Civil.IsAhead
  split
  · obtain ⟨valid, micros⟩ := Civil.iterate_next h' n.toNat
    constructor
    · intro counted
      rw [counted] at micros
      omega
    · intro number
      exact Civil.eq_of_micros_eq valid h (by omega)
  · obtain ⟨valid, micros⟩ := Civil.iterate_next h (-n).toNat
    constructor
    · intro counted
      rw [counted] at micros
      omega
    · intro number
      exact Civil.eq_of_micros_eq valid h' (by omega)

end UserDirectory.Time

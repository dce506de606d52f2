import UserDirectory.Proofs.Paging.Grammar
import UserDirectory.Proofs.Store.Order
import UserDirectory.Proofs.Time.Chronology

/-!
# Microseconds as a coordinate of time

A token carries the time of creation as a number of microseconds, while rows are compared by their
instants. The number stands for the instant exactly, in the order of the calendar fields. A token
whose number is beyond the calendar is refused for its timestamp, however many digits the number
has.
-/
namespace UserDirectory.Paging

open Number Store Time

namespace Cursor

/-- The text of an integer: digits, of which there may be any number, behind a minus sign or
none. -/
def numeral (negative : Bool) (digits : List Char) : List Char :=
  if negative then '-' :: digits else digits

/-- The integer of such a text. -/
def numeralValue (negative : Bool) (digits : List Char) : Int :=
  signed negative (Nat.ofDigitChars 10 digits 0)

variable {negative : Bool} {digits : List Char}

theorem ampersand_not_mem_of_isDigit (ascii : ∀ c ∈ digits, c.isDigit = true) :
    '&' ∉ numeral negative digits := by
  have free : '&' ∉ digits := by
    intro mark
    have digit := ascii '&' mark
    revert digit
    decide
  cases negative with
  | false => exact free
  | true =>
    rw [numeral, if_pos rfl, List.mem_cons, not_or]
    exact ⟨by decide, free⟩

/-- A text of digits is the numeral of no other integer than its own. -/
theorem eq_numeralValue (nonempty : digits ≠ []) (ascii : ∀ c ∈ digits, c.isDigit = true) {n : Int}
    (h : Numeral (numeral negative digits) n) : n = numeralValue negative digits := by
  obtain ⟨negative', values, read, -, rfl⟩ := numeral_iff.1 h
  have own : readPlain? (numeral negative digits) = some (negative, digits.map digitOf) := by
    cases negative with
    | false => exact readPlain?_digits nonempty ascii
    | true => exact readPlain?_minus_digits nonempty ascii
  obtain ⟨rfl, rfl⟩ := Prod.mk.inj (Option.some.inj (read.symm.trans own))
  rw [value_map_digitOf]
  rfl

/-- A number beyond the calendar is refused as a timestamp. -/
theorem ofToken_of_overflow {token : String} {id : List Char} (nonempty : digits ≠ [])
    (ascii : ∀ c ∈ digits, c.isDigit = true)
    (overflow : Instant.ofMicros? (numeralValue negative digits) = none)
    (opens : Opens token (joined (numeral negative digits) id)) (named : id ≠ []) :
    ofToken token = .error .invalidTimestamp := by
  refine ofToken_of_fault (.time opens (ampersand_not_mem_of_isDigit ascii) named fun timed => ?_)
  obtain ⟨t, stands⟩ := isTime_iff.1 timed
  rw [← eq_numeralValue nonempty ascii stands, Instant.ofMicros?_micros] at overflow
  cases overflow

end Cursor

/-- Rows are compared with a cursor by the fields of the calendar. -/
theorem isAfter_iff_fields {row : Row} {c : Cursor} : row.isAfter c = true ↔
    c.createdAt.civil.fields < row.createdAt.civil.fields ∨
      (c.createdAt.civil = row.createdAt.civil ∧ c.id < row.id) := by
  rw [Row.isAfter_iff, Cursor.Before, Instant.micros_lt_iff, ← Instant.civil_inj]
  rfl

/-- Numbers of microseconds are an exact coordinate of time. The number of a local time, at any
offset or none, stands for the civil time that it shows in universal time, which is the one from
which the calendar counts the offset on; there is no such civil time just if the number stands for
no instant. Numbers are in the order of the calendar fields. They stand for instants from the first
microsecond of year 1 to the last one of year 9999, and each is the number of the civil time that it
stands for. Any other number makes a token invalid for its timestamp. Rows behind a cursor are
sought by the same fields. -/
theorem micros_are_coordinates :
    (∀ t : LocalTime, (Instant.ofMicros? t.micros).map Instant.civil = t.utc?) ∧
    (∀ (t : LocalTime) (c : Civil), t.civil.IsValid → t.utc? = some c →
      c.IsValid ∧ c.micros = t.micros ∧ t.civil.IsAhead (t.offset.getD 0) c) ∧
    (∀ (a b : LocalTime) (c d : Civil), a.civil.IsValid → b.civil.IsValid →
      a.utc? = some c → b.utc? = some d →
      (a.micros < b.micros ↔ c.fields < d.fields)) ∧
    (∀ n : Int, (∃ t, Instant.ofMicros? n = some t) ↔
      (Civil.mk ⟨1, 1, 1⟩ 0 0 0 0).micros ≤ n ∧
        n ≤ (Civil.mk ⟨9999, 12, 31⟩ 23 59 59 999999).micros) ∧
    (∀ (n : Int) (t : Instant), Instant.ofMicros? n = some t →
      t.civil.IsValid ∧ LocalTime.micros ⟨t.civil, some 0⟩ = n) ∧
    (∀ (token : String) (negative : Bool) (digits id : List Char),
      digits ≠ [] → (∀ c ∈ digits, c.isDigit = true) →
      Instant.ofMicros? (Cursor.numeralValue negative digits) = none →
      Cursor.Opens token (Cursor.joined (Cursor.numeral negative digits) id) → id ≠ [] →
      Cursor.ofToken token = .error .invalidTimestamp) ∧
    ∀ (row : Row) (c : Cursor), row.isAfter c = true ↔
      c.createdAt.civil.fields < row.createdAt.civil.fields ∨
        (c.createdAt.civil = row.createdAt.civil ∧ c.id < row.id) := by
  refine ⟨fun t => t.utc?_eq.symm, fun t c valid shown => LocalTime.isAhead_utc valid shown, ?_,
    fun n => ?_, ?_, fun token negative digits id nonempty ascii overflow opens named =>
      Cursor.ofToken_of_overflow nonempty ascii overflow opens named,
    fun row c => isAfter_iff_fields⟩
  · intro a b c d validA validB shownA shownB
    obtain ⟨validC, microsC, -⟩ := LocalTime.isAhead_utc validA shownA
    obtain ⟨validD, microsD, -⟩ := LocalTime.isAhead_utc validB shownB
    rw [← microsC, ← microsD, Civil.micros_lt_iff validC validD]
  · rw [micros_first, micros_last]
    constructor
    · rintro ⟨t, stands⟩
      rw [← Instant.ofMicros?_eq_some_iff.1 stands]
      exact ⟨t.first_le, t.le_last⟩
    · rintro ⟨first, last⟩
      exact ⟨⟨n, first, last⟩, Instant.ofMicros?_eq_some_iff.2 rfl⟩
  · intro n t stands
    obtain rfl := Instant.ofMicros?_eq_some_iff.1 stands
    refine ⟨t.isValid_civil, ?_⟩
    rw [LocalTime.micros, Option.getD_some, Int.sub_zero, t.micros_civil]

/-- The end of a leap day of a century before 1970, at an offset that leads over it, and the
microsecond behind it; and tokens of the microseconds before and behind the calendar. -/
theorem micros_are_coordinates_leap_day :
    let ahead : LocalTime := ⟨⟨⟨1600, 3, 1⟩, 5, 29, 59, 999999⟩, some 19800000000⟩
    let shown : Civil := ⟨⟨1600, 2, 29⟩, 23, 59, 59, 999999⟩
    let after : LocalTime := ⟨⟨⟨1600, 3, 1⟩, 0, 0, 0, 0⟩, none⟩
    ahead.utc? = some shown ∧ ahead.civil.IsAhead 19800000000 shown ∧ ahead.micros < after.micros ∧
    (∃ t, Instant.ofMicros? (-62135596800000000) = some t ∧
      LocalTime.micros ⟨t.civil, some 0⟩ = -62135596800000000) ∧
    Cursor.ofToken "MSYtNjIxMzU1OTY4MDAwMDAwMDEmeA" = .error .invalidTimestamp ∧
    Cursor.ofToken "MSYyNTM0MDIzMDA4MDAwMDAwMDAmeA" = .error .invalidTimestamp := by
  intro ahead shown after
  obtain ⟨-, counts, orders, stands, returns, refuses, -⟩ := micros_are_coordinates
  have month : Civil.IsValid ahead.civil :=
    ⟨⟨by decide, by decide, by decide, by decide⟩, by decide, by decide, by decide, by decide⟩
  have behind : Civil.IsValid after.civil :=
    ⟨⟨by decide, by decide, by decide, by decide⟩, by decide, by decide, by decide, by decide⟩
  have utc : ahead.utc? = some shown := by decide +kernel
  have utc' : after.utc? = some after.civil := by decide +kernel
  obtain ⟨first, found⟩ := (stands (-62135596800000000)).2 ⟨by decide, by decide⟩
  refine ⟨utc, (counts ahead shown month utc).2.2,
    (orders ahead after shown _ month behind utc utc').2 (by decide),
    ⟨first, found, (returns _ first found).2⟩, ?_, ?_⟩
  · exact refuses _ true "62135596800000001".toList ['x'] (by decide)
      (List.all_eq_true.1 (by decide)) (by decide +kernel)
      ⟨List.all_eq_true.1 (by decide), by decide +kernel⟩ (by decide)
  · exact refuses _ false "253402300800000000".toList ['x'] (by decide)
      (List.all_eq_true.1 (by decide)) (by decide +kernel)
      ⟨List.all_eq_true.1 (by decide), by decide +kernel⟩ (by decide)

end UserDirectory.Paging

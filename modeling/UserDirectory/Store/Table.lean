import UserDirectory.Paging.Cursor
import UserDirectory.Search.Pattern
import UserDirectory.Search.Trigram

/-!
# The table of users

A row holds labels as the texts that were stored, which need not be known ones. The statements on
the table insert a row unless its id is taken, overwrite a row, erase what a row says of a person,
and read rows. No statement removes a row or changes its id or its time of creation.
-/
namespace UserDirectory.Store

open Time Paging Search

structure Row where
  id : String
  name : String
  email : Option String
  lastUpdatedWith : String
  userType : String
  createdAt : Instant
  updatedAt : Option Instant
  deletedAt : Option Instant
deriving DecidableEq

abbrev Table := List Row

/-- The rows in ascending order of their ids. -/
def Table.byId (t : Table) : List Row := t.mergeSort fun a b => a.id ≤ b.id

/-- What a write puts into a row. A write without a name is refused. -/
structure Change where
  name : Option String
  email : Option String
  lastUpdatedWith : String
  userType : String
deriving DecidableEq

/-- Why a statement fails. -/
inductive Refusal
  | missingTable
  | missingName
  | severalRows
  | tooManyValues
  | patternTooLong
  | limitOutOfRange
  | outage
deriving DecidableEq, Repr

/-- A statement gives an answer and the table after it, or is refused and leaves the table as it
is. -/
abbrev Statement (α : Type) := Table → Except Refusal (α × Table)

/-! ## Writing -/

/-- Inserts a row with the id, or nothing if there is one; answers with the new row. -/
def insertNew (id : String) (change : Change) (now : Instant) : Statement (Option Row) := fun t =>
  match change.name with
  | none => .error .missingName
  | some name =>
    if t.any (·.id == id) then .ok (none, t)
    else
      let row : Row :=
        ⟨id, name, change.email, change.lastUpdatedWith, change.userType, now, none, none⟩
      .ok (some row, t ++ [row])

/-- The row after it has been written again; it is no longer deleted. -/
def Row.overwritten (row : Row) (name : String) (change : Change) (now : Instant) : Row :=
  { row with
    name
    email := change.email
    lastUpdatedWith := change.lastUpdatedWith
    userType := change.userType
    updatedAt := some now
    deletedAt := none }

@[simp] theorem Row.id_overwritten (row : Row) (name : String) (change : Change) (now : Instant) :
    (row.overwritten name change now).id = row.id := rfl

@[simp] theorem Row.createdAt_overwritten (row : Row) (name : String) (change : Change)
    (now : Instant) :
    (row.overwritten name change now).createdAt = row.createdAt := rfl

/-- Writes the rows with the id again; answers with them. -/
def overwrite (id : String) (change : Change) (now : Instant) : Statement (List Row) := fun t =>
  match change.name with
  | none => if t.any (·.id == id) then .error .missingName else .ok ([], t)
  | some name =>
    let t' := t.map fun row => if row.id = id then row.overwritten name change now else row
    .ok (t'.filter (·.id == id), t')

/-- The name of a deleted user. -/
def deletedName : String := "Deleted User"

def Row.erased (row : Row) (now : Instant) : Row :=
  { row with name := deletedName, email := none, deletedAt := some now }

@[simp] theorem Row.id_erased (row : Row) (now : Instant) : (row.erased now).id = row.id := rfl

@[simp] theorem Row.createdAt_erased (row : Row) (now : Instant) :
    (row.erased now).createdAt = row.createdAt := rfl

/-- Erases the rows with the id; answers with their number. -/
def erase (id : String) (now : Instant) : Statement Nat := fun t =>
  .ok ((t.filter (·.id == id)).length, t.map fun row => if row.id = id then row.erased now else row)

/-- Erasing keeps the ids and their order. -/
theorem ids_erase {id : String} {now : Instant} {t t' : Table} {n : Nat}
    (h : erase id now t = .ok (n, t')) :
    t'.map (·.id) = t.map (·.id) := by
  simp only [erase, Except.ok.injEq, Prod.mk.injEq] at h
  obtain ⟨_, rfl⟩ := h
  rw [List.map_map]
  refine List.map_congr_left fun row _ => ?_
  by_cases hid : row.id = id <;> simp [hid]

/-! ## Reading a page -/

/-- What a page is read by: ids, a part of the name, the cursor it comes after, and the number of
rows. -/
structure PageQuery where
  ids : Option (List String)
  name : Option String
  after : Option Cursor
  limit : Int

/-- Comes the row after the cursor, by time of creation and then by id? -/
def Row.isAfter (row : Row) (c : Cursor) : Bool :=
  c.createdAt.micros < row.createdAt.micros ||
    (row.createdAt.micros == c.createdAt.micros && c.id < row.id)

/-- The order of rows in lists. -/
def Row.le (a b : Row) : Bool :=
  a.createdAt.micros < b.createdAt.micros ||
    (a.createdAt.micros == b.createdAt.micros && a.id ≤ b.id)

theorem Row.le_total (a b : Row) : (a.le b || b.le a) = true := by
  simp only [Row.le, Bool.or_eq_true, Bool.and_eq_true, decide_eq_true_eq, beq_iff_eq]
  rcases Int.lt_trichotomy a.createdAt.micros b.createdAt.micros with h | h | h
  · exact .inl (.inl h)
  · rcases String.le_total a.id b.id with hid | hid
    · exact .inl (.inr ⟨h, hid⟩)
    · exact .inr (.inr ⟨h.symm, hid⟩)
  · exact .inr (.inl h)

theorem Row.le_trans {a b c : Row} (hab : a.le b = true) (hbc : b.le c = true) : a.le c = true := by
  simp only [Row.le, Bool.or_eq_true, Bool.and_eq_true, decide_eq_true_eq, beq_iff_eq] at *
  rcases hab with hab | ⟨hab, ida⟩ <;> rcases hbc with hbc | ⟨hbc, idb⟩
  · exact .inl (by omega)
  · exact .inl (by omega)
  · exact .inl (by omega)
  · exact .inr ⟨by omega, String.le_trans ida idb⟩

namespace PageQuery

/-- Is the row one that the name is looked at in? -/
def reaches (q : PageQuery) (row : Row) : Bool :=
  row.deletedAt.isNone && q.ids.all (·.contains row.id)

def selects (q : PageQuery) (row : Row) : Bool :=
  q.reaches row && q.name.all (Pattern.holds · row.name) && q.after.all row.isAfter

/-- The number of values that the statement takes: the ids, the part of the name, the time of the
cursor twice and its id, and two for how many rows are read and how many are passed over. -/
def values (q : PageQuery) : Nat :=
  q.ids.elim 0 List.length + q.name.elim 0 (fun _ => 1) + q.after.elim 0 (fun _ => 3) + 2

end PageQuery

/-- The largest number of values that a statement takes. -/
def maxValues : Nat := 32766

/-- A negative limit is none. -/
def takeLimit {α : Type} (limit : Int) (l : List α) : List α :=
  if limit < 0 then l else l.take limit.toNat

theorem length_takeLimit {α : Type} {limit : Int} (h : 0 ≤ limit) (l : List α) :
    (takeLimit limit l).length = min limit.toNat l.length := by
  simp [takeLimit, Int.not_lt.2 h]

/-- The numbers that a limit may be: those of 64 bits with a sign. -/
def isLimit (n : Int) : Bool := -9223372036854775808 ≤ n && n ≤ 9223372036854775807

/-- The selected rows in the order of lists, as many as the limit lets. A pattern that is too long
is refused when it is first tried on a name, and none is tried if no row is asked for. -/
def page (q : PageQuery) : Statement (List Row) := fun t =>
  if maxValues < q.values then .error .tooManyValues
  else if !isLimit q.limit then .error .limitOutOfRange
  else if q.limit != 0 && q.name.any Pattern.isTooLong && t.any q.reaches
    then .error .patternTooLong
  else .ok (takeLimit q.limit ((t.filter q.selects).mergeSort Row.le), t)

/-! ## Searching -/

/-- The largest number of rows that a search finds. -/
def searchLimit : Nat := 10

/-- The text that a row is found by. -/
def Row.haystack (row : Row) : String := row.name ++ " " ++ row.email.getD ""

/-- The order in which rows are found: the more similar first, then by id. -/
def nearer (a b : Ratio × Row) : Bool :=
  !a.1.le b.1 || (b.1.le a.1 && a.2.id ≤ b.2.id)

theorem nearer_total (a b : Ratio × Row) : (nearer a b || nearer b a) = true := by
  simp only [nearer, Bool.or_eq_true, Bool.and_eq_true, Bool.not_eq_true', decide_eq_true_eq]
  cases hab : a.1.le b.1
  · simp
  · cases hba : b.1.le a.1
    · simp
    · rcases String.le_total a.2.id b.2.id with hid | hid <;> simp [hid]

/-- The rows most similar to a term, deleted ones too. Distances are compared as fractions here,
where the store compares them rounded to binary ones; that the order is the same for texts of up to
2^25 trigrams is `Profile.precedesRounded_iff`. -/
def nearest (term : String) : Statement (List Row) := fun t =>
  let rated := t.map fun row => (similarity row.haystack term, row)
  .ok (((rated.mergeSort nearer).take searchLimit).map (·.2), t)

end UserDirectory.Store

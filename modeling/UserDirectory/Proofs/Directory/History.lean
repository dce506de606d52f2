import Mathlib.Data.List.Induction
import UserDirectory.Proofs.Directory.Edit

/-!
# The table that a history makes

The row of an id says when the id was first written, what was written last, and when it was erased
since. So a run of writes and erasures from the empty table ends in the table that its history says,
and each answer on the way is what the history before it says.
-/
namespace UserDirectory.Directory

open Store Paging Time

/-! ## What a history says of an id -/

/-- A write that has a name, and its time. -/
structure Upsert where
  name : String
  write : Write
  now : Instant

/-- The write of an id that an edit is, if it is one. -/
def Edit.upsertOf? (x : UserId) : Edit → Option Upsert
  | .write w now => if w.id = x then w.name.map (⟨·, w, now⟩) else none
  | .erase _ _ => none

/-- The time at which an edit erases an id, if it does. -/
def Edit.erasureOf? (x : UserId) : Edit → Option Instant
  | .write _ _ => none
  | .erase id now => if id = x then some now else none

def upserts (x : UserId) (history : List Edit) : List Upsert := history.filterMap (·.upsertOf? x)

/-- The time of the last erasure after the last write. -/
def erasedAt? (x : UserId) (history : List Edit) : Option Instant :=
  ((history.reverse.takeWhile fun e => (e.upsertOf? x).isNone).filterMap (·.erasureOf? x)).head?

/-- The row of an id by its first and last write, whether there are more than one, and the erasure
since. -/
def record (x : UserId) (first last : Upsert) (again : Bool) (erasedAt : Option Instant) : Row where
  id := x.text
  name := if erasedAt.isSome then deletedName else last.name
  email := if erasedAt.isSome then none else last.write.email
  lastUpdatedWith := last.write.lastUpdatedWith.label
  userType := last.write.userType.label
  createdAt := first.now
  updatedAt := if again then some last.now else none
  deletedAt := erasedAt

/-- The row that a history makes for an id, if it writes the id at all. -/
def rowOf? (x : UserId) (history : List Edit) : Option Row :=
  match (upserts x history).head?, (upserts x history).getLast? with
  | some first, some last =>
    some (record x first last (decide (1 < (upserts x history).length)) (erasedAt? x history))
  | _, _ => none

variable {x : UserId} {history : List Edit} {e : Edit}

/-! ## One edit more -/

theorem upserts_concat (x : UserId) (history : List Edit) (e : Edit) :
    upserts x (history ++ [e]) = upserts x history ++ (e.upsertOf? x).toList := by
  rw [upserts, List.filterMap_append]
  rfl

theorem erasedAt?_concat (x : UserId) (history : List Edit) (e : Edit) :
    erasedAt? x (history ++ [e]) =
      if (e.upsertOf? x).isSome then none else (e.erasureOf? x).or (erasedAt? x history) := by
  simp only [erasedAt?, List.reverse_append, List.reverse_singleton, List.singleton_append,
    List.takeWhile_cons]
  cases written : e.upsertOf? x with
  | some u => simp
  | none =>
    cases erased : e.erasureOf? x with
    | some now => simp [erased]
    | none => simp [erased]

theorem rowOf?_of_ne_nil {l : List Upsert} {first : Upsert} (h : upserts x history = first :: l) :
    rowOf? x history =
      some (record x first ((first :: l).getLast (by simp)) (decide (1 < (first :: l).length))
        (erasedAt? x history)) := by
  simp only [rowOf?, h]
  rfl

theorem rowOf?_eq_none_iff : rowOf? x history = none ↔ upserts x history = [] := by
  cases h : upserts x history with
  | nil => simp [rowOf?, h]
  | cons first l => simp [rowOf?_of_ne_nil h]

/-- An edit that neither writes nor erases an id says nothing of it. -/
theorem rowOf?_concat_of_none (written : e.upsertOf? x = none) (erased : e.erasureOf? x = none) :
    rowOf? x (history ++ [e]) = rowOf? x history := by
  simp only [rowOf?, upserts_concat, erasedAt?_concat, written, erased, Option.toList_none,
    List.append_nil, Option.none_or]
  simp

theorem rowOf?_concat_first {w : Write} {name : String} (named : w.name = some name) (now : Instant)
    (fresh : upserts w.id history = []) :
    rowOf? w.id (history ++ [.write w now]) = some (User.row (w.user name now none) none) := by
  have written : (Edit.write w now).upsertOf? w.id = some ⟨name, w, now⟩ := by
    simp [Edit.upsertOf?, named]
  have all : upserts w.id (history ++ [.write w now]) = [⟨name, w, now⟩] := by
    rw [upserts_concat, fresh, written]
    rfl
  rw [rowOf?_of_ne_nil all, erasedAt?_concat, written]
  rfl

theorem rowOf?_concat_write {w : Write} {name : String} (named : w.name = some name)
    (now : Instant) {row : Row} (known : rowOf? w.id history = some row) :
    rowOf? w.id (history ++ [.write w now]) = some (row.overwritten name w.change now) := by
  have written : (Edit.write w now).upsertOf? w.id = some ⟨name, w, now⟩ := by
    simp [Edit.upsertOf?, named]
  cases h : upserts w.id history with
  | nil => simp [rowOf?_eq_none_iff.2 h] at known
  | cons first l =>
    rw [rowOf?_of_ne_nil h] at known
    obtain rfl := Option.some.inj known
    have all : upserts w.id (history ++ [.write w now]) = first :: (l ++ [⟨name, w, now⟩]) := by
      rw [upserts_concat, h, written]
      rfl
    rw [rowOf?_of_ne_nil all, erasedAt?_concat, written]
    simp [record, Row.overwritten, Write.change]

theorem rowOf?_concat_erase (now : Instant) :
    rowOf? x (history ++ [.erase x now]) = (rowOf? x history).map (·.erased now) := by
  have notWritten : (Edit.erase x now).upsertOf? x = none := rfl
  have erased : (Edit.erase x now).erasureOf? x = some now := by simp [Edit.erasureOf?]
  have all : upserts x (history ++ [.erase x now]) = upserts x history := by
    rw [upserts_concat, notWritten]
    simp
  cases h : upserts x history with
  | nil => simp [rowOf?_eq_none_iff.2 h, rowOf?_eq_none_iff.2 (all.trans h)]
  | cons first l =>
    rw [rowOf?_of_ne_nil h, rowOf?_of_ne_nil (all.trans h), erasedAt?_concat, notWritten, erased]
    simp [record, Row.erased]

/-- An edit of another id neither writes nor erases this one. -/
theorem upsertOf?_of_ne (other : e.id ≠ x) : e.upsertOf? x = none ∧ e.erasureOf? x = none := by
  cases e with
  | write w now => exact ⟨if_neg other, rfl⟩
  | erase id now => exact ⟨rfl, if_neg other⟩

/-! ## Runs -/

theorem applyAll_concat (history : List Edit) (e : Edit) (t : Table) :
    applyAll (history ++ [e]) t = e.apply (applyAll history t) := by
  simp [applyAll]

/-- The rows of an id that the table did not have are what the history says of it: by one edit more
on both sides. -/
theorem rowsOf_applyAll_of_fresh {t : Table} (fresh : t.rowsOf x.text = []) (history : List Edit) :
    (applyAll history t).rowsOf x.text = (rowOf? x history).toList := by
  induction history using List.reverseRecOn with
  | nil => exact fresh
  | append_singleton history e ih =>
    rw [applyAll_concat]
    by_cases other : e.id ≠ x
    · obtain ⟨written, erased⟩ := upsertOf?_of_ne other
      rw [rowsOf_apply_of_ne other, rowOf?_concat_of_none written erased, ih]
    obtain rfl : e.id = x := not_not.1 other
    cases e with
    | erase id now =>
      rw [Edit.id] at ih ⊢
      rw [rowsOf_apply_erase, rowOf?_concat_erase, ih, Option.toList_map]
    | write w now =>
      rw [Edit.id] at ih ⊢
      cases named : w.name with
      | none =>
        have notWritten : (Edit.write w now).upsertOf? w.id = none := by
          simp [Edit.upsertOf?, named]
        rw [rowsOf_apply_nameless named, rowOf?_concat_of_none notWritten rfl, ih]
      | some name =>
        rw [rowsOf_apply_write named, ih]
        cases known : rowOf? w.id history with
        | none => rw [rowOf?_concat_first named now (rowOf?_eq_none_iff.1 known)]; rfl
        | some row => rw [rowOf?_concat_write named now known]; rfl

theorem rowsOf_applyAll (x : UserId) (history : List Edit) :
    (applyAll history []).rowsOf x.text = (rowOf? x history).toList :=
  rowsOf_applyAll_of_fresh rfl history

/-- There is a row of an id if there was one, or if the id was written. -/
theorem rowsOf_applyAll_eq_nil_iff (x : UserId) (history : List Edit) (t : Table) :
    (applyAll history t).rowsOf x.text = [] ↔ t.rowsOf x.text = [] ∧ upserts x history = [] := by
  by_cases fresh : t.rowsOf x.text = []
  · rw [rowsOf_applyAll_of_fresh fresh, ← rowOf?_eq_none_iff]
    simp [fresh]
  · simp [fresh, (Keeps.applyAll history t).rowsOf_ne_nil fresh]

/-! ## Edits of one id -/

/-- The edits of a history that are about an id. -/
def editsOf (x : UserId) (history : List Edit) : List Edit := history.filter (·.id = x)

theorem editsOf_concat (x : UserId) (history : List Edit) (e : Edit) :
    editsOf x (history ++ [e]) = editsOf x history ++ if e.id = x then [e] else [] := by
  rw [editsOf, List.filter_append]
  by_cases same : e.id = x <;> simp [editsOf, same]

theorem upserts_editsOf (x : UserId) (history : List Edit) :
    upserts x (editsOf x history) = upserts x history := by
  induction history using List.reverseRecOn with
  | nil => rfl
  | append_singleton history e ih =>
    rw [editsOf_concat, upserts_concat x history]
    split
    · rw [upserts_concat, ih]
    · rename_i other
      rw [(upsertOf?_of_ne other).1, List.append_nil, ih]
      simp

theorem erasedAt?_editsOf (x : UserId) (history : List Edit) :
    erasedAt? x (editsOf x history) = erasedAt? x history := by
  induction history using List.reverseRecOn with
  | nil => rfl
  | append_singleton history e ih =>
    rw [editsOf_concat, erasedAt?_concat x history]
    split
    · rw [erasedAt?_concat, ih]
    · rename_i other
      obtain ⟨written, erased⟩ := upsertOf?_of_ne other
      rw [written, erased, List.append_nil, ih]
      simp

/-- What a history says of an id, its edits of the id say. -/
theorem rowOf?_editsOf (x : UserId) (history : List Edit) :
    rowOf? x (editsOf x history) = rowOf? x history := by
  simp only [rowOf?, upserts_editsOf, erasedAt?_editsOf]

/-! ## Answers -/

/-- What a write with a name answers after a history. -/
def outcomeAfter (w : Write) (history : List Edit) (user : User) : Outcome :=
  if upserts w.id history = [] then .created user else .updated user

/-- A write with a name answers with the user of the row that is there after it. -/
theorem write_yields_outcomeAfter {w : Write} {name : String} (named : w.name = some name)
    (now : Instant) (history : List Edit) :
    ∃ u : User, rowOf? w.id (history ++ [.write w now]) = some (User.row u none) ∧
      ∃ t', (write w now).Yields (applyAll history []) (.ok (outcomeAfter w history u)) t' := by
  have rows := rowsOf_applyAll w.id history
  cases known : rowOf? w.id history with
  | none =>
    have fresh := rowOf?_eq_none_iff.1 known
    rw [known] at rows
    have answer : outcomeAfter w history (w.user name now none) = .created _ := if_pos fresh
    have yields := write_new named now rows
    rw [← answer] at yields
    exact ⟨_, rowOf?_concat_first named now fresh, _, yields⟩
  | some row =>
    have notFresh : upserts w.id history ≠ [] :=
      fun fresh => by simp [rowOf?_eq_none_iff.2 fresh] at known
    have taken : (applyAll history []).rowsOf w.id.text ≠ [] := by simp [rows, known]
    obtain ⟨u, deletedAt, same, only⟩ := (WellFormed.nil.applyAll history).exists_only taken
    obtain rfl : row = User.row u deletedAt := by
      rw [rows, known] at only
      simpa using only
    have stored := rowOf?_concat_write named now known
    rw [overwritten_row same] at stored
    have answer : outcomeAfter w history (w.user name u.createdAt (some now)) = .updated _ :=
      if_neg notFresh
    have yields := write_old named now same only
    rw [← answer] at yields
    exact ⟨_, stored, _, yields⟩

/-- The edits of other ids leave the answer of a write as it is. -/
theorem outcome_write_editsOf (w : Write) (now : Instant) (history : List Edit) {s s' : Session}
    (serves : s.Serves (applyAll history []))
    (serves' : s'.Serves (applyAll (editsOf w.id history) [])) :
    (write w now s).outcome = (write w now s').outcome := by
  cases named : w.name with
  | none => rw [(write_nameless named now _ s serves).1, (write_nameless named now _ s' serves').1]
  | some name =>
    obtain ⟨u, row, t, yields⟩ := write_yields_outcomeAfter named now history
    obtain ⟨u', row', t', yields'⟩ := write_yields_outcomeAfter named now (editsOf w.id history)
    have concat : editsOf w.id history ++ [.write w now] =
        editsOf w.id (history ++ [.write w now]) := by
      rw [editsOf_concat]
      simp [Edit.id]
    rw [concat, rowOf?_editsOf, row] at row'
    obtain rfl := User.row_injective (Option.some.inj row')
    rw [(yields s serves).1, (yields' s' serves').1, outcomeAfter, outcomeAfter, upserts_editsOf]

/-- After every run of writes and erasures from the empty table, each id has the one row that the
run says, no other text has one, and each further write or erasure answers what the run says. The
edits of other ids change none of this. -/
theorem runs_follow_history {s : Session} (serves : s.Serves []) (history : List Edit) :
    (∃ t, (runAll history s).view = some t ∧ (∀ row ∈ t, ∃ x : UserId, row.id = x.text) ∧
      ∀ x : UserId, t.rowsOf x.text = (rowOf? x history).toList ∧
        ∃ t', (runAll (editsOf x history) s).view = some t' ∧ t'.rowsOf x.text = t.rowsOf x.text) ∧
    (∀ x : UserId, rowOf? x history ≠ none ↔ upserts x history ≠ []) ∧
    (∀ (w : Write) (now : Instant) (name : String), w.name = some name →
      ∃ u : User, rowOf? w.id (history ++ [.write w now]) = some (User.row u none) ∧
        (write w now (runAll history s)).outcome = .ok (outcomeAfter w history u)) ∧
    (∀ (w : Write) (now : Instant), w.name = none →
      (write w now (runAll history s)).outcome = .error (.store .upsert)) ∧
    (∀ (x : UserId) (now : Instant),
      (erase x now (runAll history s)).outcome = .ok (decide (upserts x history ≠ []))) ∧
    (∀ (w : Write) (now : Instant),
      (write w now (runAll history s)).outcome =
        (write w now (runAll (editsOf w.id history) s)).outcome) ∧
    ∀ (x : UserId) (now : Instant),
      (erase x now (runAll history s)).outcome =
        (erase x now (runAll (editsOf x history) s)).outcome := by
  have served := fun history => serves_runAll serves .nil history
  have erased : ∀ (x : UserId) (now : Instant) (history : List Edit),
      (erase x now (runAll history s)).outcome = .ok (decide (upserts x history ≠ [])) := by
    intro x now history
    rw [(erase_yields x now _ _ (served history)).1, rowsOf_applyAll]
    simp [rowOf?_eq_none_iff]
  refine ⟨⟨applyAll history [], (served history).view, ?_, ?_⟩, ?_, ?_, ?_, ?_, ?_, ?_⟩
  · intro row hrow
    obtain ⟨u, hu⟩ := (WellFormed.nil.applyAll history).users row hrow
    exact ⟨u.id, by rw [hu, User.id_row]⟩
  · intro x
    refine ⟨rowsOf_applyAll x history, _, (served (editsOf x history)).view, ?_⟩
    rw [rowsOf_applyAll, rowsOf_applyAll, rowOf?_editsOf]
  · intro x
    rw [Ne, rowOf?_eq_none_iff]
  · intro w now name named
    obtain ⟨u, row, t', yields⟩ := write_yields_outcomeAfter named now history
    exact ⟨u, row, (yields _ (served history)).1⟩
  · intro w now nameless
    exact (write_nameless nameless now _ _ (served history)).1
  · intro x now
    exact erased x now history
  · intro w now
    exact outcome_write_editsOf w now history (served history) (served _)
  · intro x now
    rw [erased, erased, upserts_editsOf]

/-- A user who is created, erased, written again under another name and erased once more, with a
clock that goes back: the row keeps the time of the first write, and a further write overwrites
it. -/
theorem runs_follow_history_erased_twice :
    let ada : UserId := ⟨.oidc, "ada", by decide⟩
    let first : Instant := ⟨7, by decide, by decide⟩
    let second : Instant := ⟨3, by decide, by decide⟩
    let third : Instant := ⟨9, by decide, by decide⟩
    let person : Write := ⟨ada, some "Ada", some "ada@example.org", .human, .createEndpoint⟩
    let program : Write := ⟨ada, some "Engine", none, .application, .updateEndpoint⟩
    let history : List Edit :=
      [.write person first, .erase ada second, .write program second, .erase ada third]
    Session.Serves {} [] ∧
    (∃ t, (runAll history {}).view = some t ∧ t.rowsOf "oidc~ada" =
      [⟨"oidc~ada", "Deleted User", none, "update-endpoint", "application", first, some second,
        some third⟩]) ∧
    (write person third (runAll history {})).outcome =
      .ok
        (.updated ⟨ada, "Ada", some "ada@example.org", .human, .createEndpoint, first,
          some third⟩) := by
  intro ada first second third person program history
  obtain ⟨⟨t, view, -, rows⟩, -, answers, -⟩ :=
    runs_follow_history (s := {}) ⟨rfl, rfl, rfl⟩ history
  obtain ⟨u, row, answer⟩ := answers person third "Ada" rfl
  have same : User.row u none = User.row (person.user "Ada" first (some third)) none :=
    Option.some.inj (row.symm.trans (by decide +kernel))
  refine ⟨⟨rfl, rfl, rfl⟩, ⟨t, view, (rows ada).1.trans (by decide +kernel)⟩, ?_⟩
  rw [answer, User.row_injective same]
  exact congrArg Except.ok (by decide +kernel)

end UserDirectory.Directory

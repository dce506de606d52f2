import UserDirectory.Proofs.Coupling
import UserDirectory.Proofs.Directory.Listed
import UserDirectory.Proofs.Store.Nearest

/-!
# Rows read one by one

Rows whose labels are known are read in order, up to the first id that does not parse. So the rows
alone decide what reading them comes to: either all of them are read, or the reading fails for that
id.
-/
namespace UserDirectory

open Store

namespace Store.Row

/-- The id of the row is the text of a user's id. -/
def Parses (row : Row) : Prop := ∃ id, UserId.parse row.id = .ok id

/-- The type that is stored is a known one, as the column has it. -/
def Typed (row : Row) : Prop := ∃ t, UserType.ofLabel? row.userType = some t

/-- Both labels that are stored are known ones. -/
def Labelled (row : Row) : Prop := row.Typed ∧ ∃ e, EntryPoint.ofLabel? row.lastUpdatedWith = some e

end Store.Row

/-- What is made of an answer is no failure. -/
theorem Action.outcome_bind_pure {ε α β : Type} (x : Action ε α) (f : α → β) (s : Session) :
    ((x >>= fun a => Pure.pure (f a)) s).outcome = (x s).outcome.map f := by
  cases ended : (x s).outcome with
  | ok a =>
    rw [bind_of_ok ended]
    rfl
  | error e =>
    rw [bind_of_error ended]
    rfl

/-- An action that only reads what it was given has the outcome that it has elsewhere. -/
theorem Action.Still.yields {ε α : Type} {x : Action ε α} (still : x.Still) (t : Table)
    (s : Session) :
    x.Yields t (x s).outcome t := by
  obtain ⟨r, reads⟩ := still
  intro s' serves
  rw [(reads s').1, (reads s').2, (reads s).1]
  exact ⟨rfl, serves, fun inside => ⟨inside, rfl⟩⟩

namespace Directory

/-! ## One row -/

variable {α β : Type} {row : Row} {s : Session}

/-- The row is read for what is said, whatever the session, or its id does not parse. -/
structure ReadsRow (row : Row) (x : Action Error β) (made : β → Prop) : Prop where
  parsed : row.Parses → ∃ b, made b ∧ ∀ s, (x s).outcome = .ok b
  unparsed : ∀ e, UserId.parse row.id = .error e → ∀ s, (x s).outcome = .error (.storedId row.id e)

theorem readId_of_ok {stored : String} {id : UserId} (h : UserId.parse stored = .ok id)
    (s : Session) :
    (readId stored s).outcome = .ok id := by
  unfold readId
  rw [h]
  rfl

theorem readId_of_error {stored : String} {e : UserIdError} (h : UserId.parse stored = .error e)
    (s : Session) :
    (readId stored s).outcome = .error (.storedId stored e) := by
  unfold readId
  rw [h]
  rfl

/-- A row is read by its id and what is made of it. -/
theorem ReadsRow.of_id {make : UserId → β} {made : β → Prop}
    (makes : ∀ id, UserId.parse row.id = .ok id → made (make id)) :
    ReadsRow row (readId row.id >>= fun id => pure (make id)) made where
  parsed := by
    rintro ⟨id, h⟩
    refine ⟨make id, makes id h, fun s => ?_⟩
    rw [Action.bind_of_ok (readId_of_ok h s)]
    rfl
  unparsed := by
    intro e h s
    rw [Action.bind_of_error (readId_of_error h s)]

theorem toUser_reads {r : LabelledRow} (labelled : LabelledRow.ofRow row = .ok r) :
    ReadsRow row (toUser r) fun u => row = User.row u row.deletedAt := by
  obtain ⟨rfl, typed, entered⟩ := ofRow_eq_ok labelled
  refine .of_id fun id parsed => ?_
  simp only [User.row, UserId.text_eq_of_parse parsed, UserType.label_eq_of_ofLabel? typed,
    EntryPoint.label_eq_of_ofLabel? entered]

/-- The four columns that a user who is found was read from. -/
def FoundUser.profile (u : FoundUser) : Profile := ⟨u.id.text, u.name, u.email, u.userType.label⟩

theorem typed_of_ofRow {r : TypedRow} (h : TypedRow.ofRow row = .ok r) :
    r.row = row ∧ UserType.ofLabel? row.userType = some r.userType := by
  unfold TypedRow.ofRow readUserType at h
  cases typed : UserType.ofLabel? row.userType with
  | none =>
    rw [typed] at h
    cases h
  | some t =>
    rw [typed] at h
    cases h
    exact ⟨rfl, rfl⟩

theorem toFoundUser_reads {r : TypedRow} (typed : TypedRow.ofRow row = .ok r) :
    ReadsRow row (toFoundUser r) fun u => FoundUser.profile u = row.profile := by
  obtain ⟨rfl, known⟩ := typed_of_ofRow typed
  refine .of_id fun id parsed => ?_
  simp only [FoundUser.profile, Row.profile, UserId.text_eq_of_parse parsed,
    UserType.label_eq_of_ofLabel? known]

/-! ## One row after the other -/

/-- The outcome is what is said of all the rows, or the failure for the first row whose id does not
parse. -/
structure ReadsRows (rows : List Row) (outcome : Except Error α) (whole : α → Prop) : Prop where
  parsed : (∀ row ∈ rows, row.Parses) → ∃ a, outcome = .ok a ∧ whole a
  unparsed : ∀ before row after e, rows = before ++ row :: after → (∀ r ∈ before, r.Parses) →
    UserId.parse row.id = .error e → outcome = .error (.storedId row.id e)

theorem ReadsRows.mono {rows : List Row} {r : Except Error α} {whole whole' : α → Prop}
    (h : ReadsRows rows r whole) (weaker : ∀ a, whole a → whole' a) : ReadsRows rows r whole' where
  parsed all := by
    obtain ⟨a, answered, read⟩ := h.parsed all
    exact ⟨a, answered, weaker a read⟩
  unparsed := h.unparsed

theorem ReadsRows.map {rows : List Row} {r : Except Error α} {whole : α → Prop}
    {whole' : β → Prop} {f : α → β} (h : ReadsRows rows r whole)
    (made : ∀ a, whole a → whole' (f a)) :
    ReadsRows rows (r.map f) whole' where
  parsed all := by
    obtain ⟨a, rfl, read⟩ := h.parsed all
    exact ⟨f a, rfl, made a read⟩
  unparsed before row after e split parse unparsed := by
    rw [h.unparsed before row after e split parse unparsed]
    rfl

theorem ReadsRows.nil {whole : α → Prop} {a : α} (h : whole a) : ReadsRows [] (.ok a) whole where
  parsed _ := ⟨a, rfl, h⟩
  unparsed := by
    rintro (_ | _) row after e ⟨⟩

/-- A row that does not parse ends the reading. -/
theorem ReadsRows.stop {whole : α → Prop} {e : UserIdError}
    (unparsed : UserId.parse row.id = .error e) (rows : List Row) : ReadsRows (row :: rows)
    (.error (.storedId row.id e)) whole where
  parsed all := by
    obtain ⟨id, parsed⟩ := all row List.mem_cons_self
    rw [parsed] at unparsed
    cases unparsed
  unparsed := by
    rintro (_ | ⟨first, before⟩) row' after e' split parse unparsed'
    · obtain ⟨rfl, -⟩ := List.cons.inj split
      rw [unparsed] at unparsed'
      cases unparsed'
      rfl
    · obtain ⟨rfl, -⟩ := List.cons.inj split
      obtain ⟨id, parsed⟩ := parse row List.mem_cons_self
      rw [parsed] at unparsed
      cases unparsed

/-- A row that parses leaves the failure to those behind it. -/
theorem ReadsRows.cons {whole : α → Prop} {whole' : β → Prop} {rows : List Row}
    {r : Except Error α} (f : α → β) (parses : row.Parses) (rest : ReadsRows rows r whole)
    (joined : ∀ a, whole a → whole' (f a)) :
    ReadsRows (row :: rows) (r.map f) whole' where
  parsed all := by
    obtain ⟨a, rfl, read⟩ := rest.parsed fun row' hrow => all row' (List.mem_cons_of_mem _ hrow)
    exact ⟨f a, rfl, joined a read⟩
  unparsed := by
    rintro (_ | ⟨first, before⟩) row' after e split parse unparsed
    · obtain ⟨rfl, -⟩ := List.cons.inj split
      obtain ⟨id, parsed⟩ := parses
      rw [parsed] at unparsed
      cases unparsed
    · obtain ⟨rfl, behind⟩ := List.cons.inj split
      rw [rest.unparsed before row' after e behind
        (fun r hr => parse r (List.mem_cons_of_mem _ hr)) unparsed]
      rfl

theorem forEach_reads {f : α → Action Error β} {made : Row → β → Prop}
    {rows : List Row} {as : List α}
    (each : List.Forall₂ (fun row a => ReadsRow row (f a) (made row)) rows as) (s : Session) :
    ReadsRows rows (forEach f as s).outcome (List.Forall₂ made rows) := by
  -- The session changes from row to row, though no row is read differently for it.
  induction each generalizing s with
  | nil => exact .nil .nil
  | @cons row a rows as first others ih =>
    cases parse : UserId.parse row.id with
    | error e =>
      rw [forEach, Action.bind_of_error (first.unparsed e parse s)]
      exact .stop parse rows
    | ok id =>
      obtain ⟨b, made, reads⟩ := first.parsed ⟨id, parse⟩
      rw [forEach, Action.bind_of_ok (reads s)]
      show ReadsRows _ ((forEach f as >>= fun bs => pure (b :: bs)) _).outcome _
      rw [Action.outcome_bind_pure]
      exact .cons (b :: ·) ⟨id, parse⟩ (ih _) fun _ rest => .cons made rest

/-- Members that are all read are read one by one. -/
theorem mapM_eq_ok_of_forall {ε : Type} {f : α → Except ε β} {l : List α}
    (h : ∀ a ∈ l, ∃ b, f a = .ok b) :
    ∃ l', l.mapM f = .ok l' := by
  cases read : l.mapM f with
  | ok l' => exact ⟨l', rfl⟩
  | error e =>
    obtain ⟨a, ha, failed⟩ := (mapM_reads f l).2 e read
    obtain ⟨b, reads⟩ := h a ha
    rw [reads] at failed
    cases failed

/-! ## Labels and ids -/

/-- Rows whose labels are read, all before any id, are then read one by one. -/
theorem readRows_reads {rows : List Row} {f : Row → Except LabelError α} {g : α → Action Error β}
    {made : Row → β → Prop} (known : ∀ row ∈ rows, ∃ a, f row = .ok a)
    (each : ∀ row a, f row = .ok a → ReadsRow row (g a) (made row)) (s : Session) :
    ReadsRows rows ((Action.ofExcept ((rows.mapM f).mapError .storedLabel) >>= forEach g) s).outcome
      (List.Forall₂ made rows) := by
  obtain ⟨as, mapped⟩ := mapM_eq_ok_of_forall known
  have read : List.Forall₂ (fun row a => ReadsRow row (g a) (made row)) rows as :=
    (mapM_eq_ok mapped).imp each
  have labels : (Action.ofExcept ((rows.mapM f).mapError Error.storedLabel) s).outcome =
      .ok as := by
    rw [mapped]
    rfl
  rw [Action.bind_of_ok labels]
  exact forEach_reads read _

theorem exists_labelledRow (h : row.Labelled) : ∃ r, LabelledRow.ofRow row = .ok r := by
  obtain ⟨⟨t, typed⟩, e, entered⟩ := h
  refine ⟨⟨row, t, e⟩, ?_⟩
  simp only [LabelledRow.ofRow, readEntryPoint, readUserType, typed, entered]
  rfl

theorem exists_typedRow (h : row.Typed) : ∃ r, TypedRow.ofRow row = .ok r := by
  obtain ⟨t, typed⟩ := h
  exact ⟨⟨row, t⟩, by simp only [TypedRow.ofRow, readUserType, typed]; rfl⟩

theorem readUsers_reads {rows : List Row} (labelled : ∀ row ∈ rows, row.Labelled) (s : Session) :
    ReadsRows rows (readUsers rows s).outcome
      (List.Forall₂ (fun row u => row = User.row u row.deletedAt) rows) :=
  readRows_reads (fun row hrow => exists_labelledRow (labelled row hrow))
    (fun _ _ => toUser_reads) s

/-- Users that are found are those of the rows, one of each. -/
theorem readFoundUsers_eq_ok {rows : List Row} {users : List FoundUser}
    (h : (readFoundUsers rows s).outcome = .ok users) :
    List.Forall₂ (fun row u => FoundUser.profile u = row.profile) rows users := by
  refine readRows_eq_ok (fun row r s u typed read => ?_) h
  obtain ⟨rfl, known⟩ := typed_of_ofRow typed
  obtain ⟨id, parsed, whole⟩ := Action.bind_eq_ok read
  cases whole
  simp only [FoundUser.profile, Row.profile, UserId.text_eq_of_parse (readId_eq_ok parsed),
    UserType.label_eq_of_ofLabel? known]

theorem readFoundUsers_reads {rows : List Row} (typed : ∀ row ∈ rows, row.Typed) (s : Session) :
    ReadsRows rows (readFoundUsers rows s).outcome
      (List.Forall₂ (fun row u => FoundUser.profile u = row.profile) rows) :=
  readRows_reads (fun row hrow => exists_typedRow (typed row hrow)) (fun _ _ => toFoundUser_reads) s

end Directory

end UserDirectory

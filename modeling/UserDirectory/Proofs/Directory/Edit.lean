import UserDirectory.Directory.Write
import UserDirectory.Proofs.Directory.Reading

/-!
# Writes and erasures

What one write or erasure answers and does to a table of users. The table stays one of users, and
every row stays where it is in lists: neither its id nor its time of creation changes.
-/
namespace UserDirectory.Directory

open Store Paging Time

/-! ## Rows that are written -/

/-- The user that a write leaves. -/
def Write.user (w : Write) (name : String) (createdAt : Instant) (updatedAt : Option Instant) :
    User :=
  ⟨w.id, name, w.email, w.userType, w.lastUpdatedWith, createdAt, updatedAt⟩

/-- A row with the id of a write becomes that of its user. -/
theorem overwritten_eq {row : Row} {w : Write} (same : row.id = w.id.text) (name : String)
    (now : Instant) :
    row.overwritten name w.change now = User.row (w.user name row.createdAt (some now)) none := by
  simp [Row.overwritten, User.row, Write.user, Write.change, same]

theorem overwritten_row {u : User} {w : Write} (same : u.id = w.id) (deletedAt : Option Instant)
    (name : String) (now : Instant) :
    (User.row u deletedAt).overwritten name w.change now =
      User.row (w.user name u.createdAt (some now)) none :=
  overwritten_eq (congrArg UserId.text same) name now

theorem erased_row (u : User) (deletedAt : Option Instant) (now : Instant) :
    (User.row u deletedAt).erased now =
      User.row { u with name := deletedName, email := none } (some now) := rfl

theorem readOutcome_yields (u : User) (created : Bool) (t : Table) :
    (readOutcome created (User.row u none)).Yields t
      (.ok (if created then .created u else .updated u)) t := by
  unfold readOutcome
  rw [labelled_row]
  exact .bind (.bind (.ofExcept (.ok _) t) (toUser_yields u none t)) (.bind (.note _ t) (.pure _ t))

/-! ## The statements of a write -/

section Statements

variable {w : Write} {name : String} {t : Table}

theorem insertNew_nameless (nameless : w.name = none) (now : Instant) (t : Table) :
    insertNew w.id.text w.change now t = .error .missingName := by
  simp [insertNew, Write.change, nameless]

theorem insertNew_fresh (named : w.name = some name) (now : Instant)
    (fresh : t.rowsOf w.id.text = []) :
    insertNew w.id.text w.change now t =
      .ok (some (User.row (w.user name now none) none),
        t ++ [User.row (w.user name now none) none]) := by
  simp only [insertNew, Write.change, named, any_id_eq_false_iff.2 fresh]
  rfl

theorem insertNew_taken (named : w.name = some name) (now : Instant)
    (taken : t.rowsOf w.id.text ≠ []) :
    insertNew w.id.text w.change now t = .ok (none, t) := by
  have found : t.any (·.id == w.id.text) = true := by
    rw [← Bool.not_eq_false, any_id_eq_false_iff]
    exact taken
  simp [insertNew, Write.change, named, found]

theorem overwrite_named (named : w.name = some name) (now : Instant) (t : Table) :
    overwrite w.id.text w.change now t =
      .ok ((t.rowsOf w.id.text).map (·.overwritten name w.change now),
        t.modify w.id.text (·.overwritten name w.change now)) := by
  have rows : (t.modify w.id.text (·.overwritten name w.change now)).rowsOf w.id.text =
      (t.rowsOf w.id.text).map (·.overwritten name w.change now) := by
    rw [rowsOf_modify fun row => row.id_overwritten name w.change now, if_pos rfl]
  rw [← rows]
  simp only [overwrite, Write.change, named]
  rfl

/-! ## Inserting or overwriting -/

/-- A write without a name is refused. -/
theorem insertOrOverwrite_nameless (nameless : w.name = none) (now : Instant) (t : Table) :
    (insertOrOverwrite w now).Yields t (.error (.store .upsert)) t :=
  .inTransaction_error (.bind_error (.execute_error (insertNew_nameless nameless now t)))

/-- A row is inserted whose id is not taken. -/
theorem insertOrOverwrite_new (named : w.name = some name) (now : Instant)
    (fresh : t.rowsOf w.id.text = []) :
    (insertOrOverwrite w now).Yields t (.ok (true, User.row (w.user name now none) none))
      (t ++ [User.row (w.user name now none) none]) :=
  .inTransaction (.bind (.execute (insertNew_fresh named now fresh)) (.pure _ _))

/-- The row whose id is taken is overwritten. -/
theorem insertOrOverwrite_old (named : w.name = some name) (now : Instant) {row : Row}
    (only : t.rowsOf w.id.text = [row]) :
    (insertOrOverwrite w now).Yields t (.ok (false, row.overwritten name w.change now))
      (t.modify w.id.text (·.overwritten name w.change now)) := by
  have present := insertNew_taken named now (by simp [only] : t.rowsOf w.id.text ≠ [])
  have changed := overwrite_named named now t
  rw [only] at changed
  exact .inTransaction (.bind (.execute present) (.bind (.execute changed) (.pure _ _)))

end Statements

/-! ## The outcome of a write -/

/-- A write is stored, and the row that is stored is read. -/
theorem write_yields {w : Write} {now : Instant} {t t' : Table} {outcome : Except Error Outcome}
    (stored : (insertOrOverwrite w now >>= fun r => readOutcome r.1 r.2).Yields t outcome t') :
    (write w now).Yields t outcome t' := by
  intro s h
  have path : write w now s = (insertOrOverwrite w now >>= fun r => readOutcome r.1 r.2) s := by
    simp only [write, writeVia, h.dialect]
  rw [path]
  exact stored s h

/-- A write without a name fails. -/
theorem write_nameless {w : Write} (nameless : w.name = none) (now : Instant) (t : Table) :
    (write w now).Yields t (.error (.store .upsert)) t :=
  write_yields (.bind_error (insertOrOverwrite_nameless nameless now t))

/-- A user is created whose id is not taken. -/
theorem write_new {w : Write} {name : String} (named : w.name = some name)
    (now : Instant) {t : Table} (fresh : t.rowsOf w.id.text = []) :
    (write w now).Yields t (.ok (.created (w.user name now none)))
      (t ++ [User.row (w.user name now none) none]) :=
  write_yields (.bind (insertOrOverwrite_new named now fresh)
    (readOutcome_yields (w.user name now none) true _))

/-- A user whose id is taken is overwritten, deleted or not. -/
theorem write_old {w : Write} {name : String} (named : w.name = some name) (now : Instant)
    {t : Table} {u : User} {deletedAt : Option Instant} (same : u.id = w.id)
    (only : t.rowsOf w.id.text = [User.row u deletedAt]) :
    (write w now).Yields t (.ok (.updated (w.user name u.createdAt (some now))))
      (t.modify w.id.text (·.overwritten name w.change now)) := by
  have stored := insertOrOverwrite_old named now only
  rw [overwritten_row same] at stored
  exact write_yields
    (.bind stored (readOutcome_yields (w.user name u.createdAt (some now)) false _))

/-- An erasure answers whether there is a row with the id. -/
theorem erase_yields (id : UserId) (now : Instant) (t : Table) :
    (erase id now).Yields t (.ok (decide (t.rowsOf id.text ≠ [])))
      (t.modify id.text (·.erased now)) := by
  have erased : Store.erase id.text now t =
    .ok ((t.rowsOf id.text).length, t.modify id.text (·.erased now)) := rfl
  have found : decide (0 < (t.rowsOf id.text).length) = decide (t.rowsOf id.text ≠ []) := by
    rw [decide_eq_decide, List.length_pos_iff]
  rw [← found]
  exact .bind (.execute erased) (.bind (.note _ _) (.pure _ _))

/-! ## Edits -/

/-- A write or an erasure at a reading of the clock. -/
inductive Edit
  | write (w : Write) (now : Instant)
  | erase (id : UserId) (now : Instant)

namespace Edit

/-- The id that an edit is about. -/
def id : Edit → UserId
  | .write w _ => w.id
  | .erase id _ => id

/-- The session after an edit, whether it succeeds or fails. -/
def run : Edit → Session → Session
  | .write w now, s => (Directory.write w now s).session
  | .erase id now, s => (Directory.erase id now s).session

/-- The table after an edit. -/
def apply : Edit → Table → Table
  | .write w now, t =>
    match w.name with
    | none => t
    | some name =>
      if t.rowsOf w.id.text = [] then t ++ [User.row (w.user name now none) none]
      else t.modify w.id.text (·.overwritten name w.change now)
  | .erase id now, t => t.modify id.text (·.erased now)

end Edit

theorem apply_fresh {w : Write} {name : String} (named : w.name = some name)
    (now : Instant) {t : Table} (fresh : t.rowsOf w.id.text = []) :
    (Edit.write w now).apply t = t ++ [User.row (w.user name now none) none] := by
  simp only [Edit.apply, named, if_pos fresh]

theorem apply_taken {w : Write} {name : String} (named : w.name = some name)
    (now : Instant) {t : Table} (taken : t.rowsOf w.id.text ≠ []) :
    (Edit.write w now).apply t = t.modify w.id.text (·.overwritten name w.change now) := by
  simp only [Edit.apply, named, if_neg taken]

/-- The session after some edits. -/
def runAll (edits : List Edit) (s : Session) : Session := edits.foldl (fun s e => e.run s) s

/-- The table after some edits. -/
def applyAll (edits : List Edit) (t : Table) : Table := edits.foldl (fun t e => e.apply t) t

/-! ## What an edit keeps -/

/-- The one row of an id that is taken. -/
theorem WellFormed.exists_only {t : Table} (h : WellFormed t) {id : UserId}
    (taken : t.rowsOf id.text ≠ []) :
    ∃ (u : User) (deletedAt : Option Instant), u.id = id ∧
      t.rowsOf id.text = [User.row u deletedAt] := by
  obtain ⟨row, hrow⟩ := List.exists_mem_of_ne_nil _ taken
  obtain ⟨inTable, named⟩ := mem_rowsOf.1 hrow
  obtain ⟨u, hu⟩ := h.users row inTable
  refine ⟨u, row.deletedAt, UserId.text_injective ?_, ?_⟩
  · rw [← named, hu, User.id_row]
  · rw [← hu, ← named]
    exact h.distinctIds.rowsOf_eq_singleton inTable

/-- An edit leaves the ids distinct. -/
theorem distinctIds_apply {t : Table} (h : t.DistinctIds) (e : Edit) : (e.apply t).DistinctIds := by
  cases e with
  | write w now =>
    simp only [Edit.apply]
    split
    · exact h
    · split
      · rename_i fresh
        exact h.append fresh
      · exact h.modify fun row => row.id_overwritten _ w.change now
  | erase id now => exact h.modify fun row => row.id_erased now

/-- The rows stay rows of users if the changed ones are. -/
theorem users_modify {t : Table} (h : ∀ row ∈ t, ∃ u : User, row = User.row u row.deletedAt)
    {id : String} {f : Row → Row} (users : ∀ (u : User) (d : Option Instant), u.id.text = id →
      ∃ v : User, f (User.row u d) = User.row v (f (User.row u d)).deletedAt) :
    ∀ row ∈ t.modify id f, ∃ u : User, row = User.row u row.deletedAt := by
  intro row hrow
  obtain ⟨r, hr, rfl⟩ := mem_modify.1 hrow
  obtain ⟨u, hu⟩ := h r hr
  by_cases same : r.id = id
  · rw [if_pos same, hu]
    exact users u r.deletedAt (by rw [← same, hu, User.id_row])
  · rw [if_neg same]
    exact ⟨u, hu⟩

/-- An edit leaves a table of users. -/
theorem WellFormed.apply {t : Table} (h : WellFormed t) (e : Edit) : WellFormed (e.apply t) := by
  refine ⟨distinctIds_apply h.distinctIds e, ?_⟩
  cases e with
  | write w now =>
    simp only [Edit.apply]
    split
    · exact h.users
    · rename_i name _
      split
      · intro row hrow
        rcases List.mem_append.1 hrow with old | new
        · exact h.users row old
        · obtain rfl := List.mem_singleton.1 new
          exact ⟨w.user name now none, rfl⟩
      · exact users_modify h.users fun u d same =>
          ⟨_, overwritten_row (UserId.text_injective same) d name now⟩
  | erase id now => exact users_modify h.users fun u d _ => ⟨_, erased_row u d now⟩

/-- The session sees the edited table. -/
theorem serves_run {s : Session} {t : Table} (serves : s.Serves t) (h : WellFormed t) (e : Edit) :
    (e.run s).Serves (e.apply t) := by
  cases e with
  | write w now =>
    simp only [Edit.apply]
    split
    · rename_i nameless
      exact (write_nameless nameless now t s serves).2.1
    · rename_i name named
      split
      · rename_i fresh
        exact (write_new named now fresh s serves).2.1
      · rename_i taken
        obtain ⟨u, deletedAt, same, only⟩ := h.exists_only taken
        exact (write_old named now same only s serves).2.1
  | erase id now => exact (erase_yields id now t s serves).2.1

/-- Each row of the first table has its place in lists in the second one too. -/
def Keeps (t t' : Table) : Prop := ∀ row ∈ t, ∃ row' ∈ t', row'.cursor = row.cursor

theorem Keeps.refl (t : Table) : Keeps t t := fun row hrow => ⟨row, hrow, rfl⟩

theorem Keeps.trans {t t' t'' : Table} (h : Keeps t t') (h' : Keeps t' t'') : Keeps t t'' := by
  intro row hrow
  obtain ⟨row', hrow', same⟩ := h row hrow
  obtain ⟨row'', hrow'', same'⟩ := h' row' hrow'
  exact ⟨row'', hrow'', same'.trans same⟩

theorem Keeps.append (t : Table) (row : Row) : Keeps t (t ++ [row]) :=
  fun r hr => ⟨r, List.mem_append_left _ hr, rfl⟩

theorem Keeps.modify (t : Table) (id : String) {f : Row → Row}
    (keep : ∀ row, (f row).cursor = row.cursor) :
    Keeps t (t.modify id f) := by
  intro row hrow
  refine ⟨_, mem_modify.2 ⟨row, hrow, rfl⟩, ?_⟩
  split
  · exact keep row
  · rfl

/-- No edit removes a row or moves it. -/
theorem Keeps.apply (e : Edit) (t : Table) : Keeps t (e.apply t) := by
  cases e with
  | write w now =>
    simp only [Edit.apply]
    split
    · exact .refl t
    · split
      · exact .append t _
      · exact .modify t _ fun _ => rfl
  | erase id now => exact .modify t _ fun _ => rfl

/-- A row that is kept is found at its place by its id. -/
theorem Keeps.cursor_eq {t t' : Table} (keeps : Keeps t t') (distinct : t'.DistinctIds)
    {row row' : Row} (hrow : row ∈ t) (hrow' : row' ∈ t')
    (same : row'.id = row.id) : row'.cursor = row.cursor := by
  obtain ⟨kept, hkept, place⟩ := keeps row hrow
  have sameId : row'.id = kept.id := same.trans (congrArg Cursor.id place).symm
  rw [distinct.eq_of_id_eq hrow' hkept sameId, place]

/-- The rows of an id stay. -/
theorem Keeps.rowsOf_ne_nil {t t' : Table} {x : UserId} (keeps : Keeps t t')
    (taken : t.rowsOf x.text ≠ []) :
    t'.rowsOf x.text ≠ [] := by
  obtain ⟨row, hrow⟩ := List.exists_mem_of_ne_nil _ taken
  obtain ⟨inTable, named⟩ := mem_rowsOf.1 hrow
  obtain ⟨row', hrow', place⟩ := keeps row inTable
  have sameId : row'.id = row.id := congrArg Paging.Cursor.id place
  exact List.ne_nil_of_mem (mem_rowsOf.2 ⟨hrow', sameId.trans named⟩)

/-! ## Runs of edits -/

theorem WellFormed.applyAll {t : Table} (h : WellFormed t) (edits : List Edit) :
    WellFormed (applyAll edits t) := by
  induction edits generalizing t with
  | nil => exact h
  | cons e edits ih => exact ih (h.apply e)

theorem Keeps.applyAll (edits : List Edit) (t : Table) : Keeps t (applyAll edits t) := by
  induction edits generalizing t with
  | nil => exact .refl t
  | cons e edits ih => exact (Keeps.apply e t).trans (ih (e.apply t))

/-- The rows are those of the first table and those that were written. -/
theorem mem_applyAll {t : Table} {row : Row} {history : List Edit}
    (hrow : row ∈ applyAll history t) :
    (∃ old ∈ t, row.id = old.id) ∨ ∃ x : UserId, row.id = x.text := by
  induction history generalizing t with
  | nil => exact .inl ⟨row, hrow, rfl⟩
  | cons e history ih =>
    rcases ih hrow with ⟨r, hr, same⟩ | written
    · have changed : ∀ (f : Row → Row) (id : UserId), (∀ old, (f old).id = old.id) →
        r ∈ t.modify id.text f →
          ∃ old ∈ t, row.id = old.id := by
        intro f id keep hr
        obtain ⟨old, hold, rfl⟩ := mem_modify.1 hr
        exact ⟨old, hold, same.trans (id_changed keep old)⟩
      cases e with
      | erase id now => exact .inl (changed _ id (fun old => old.id_erased now) hr)
      | write w now =>
        simp only [Edit.apply] at hr
        split at hr
        · exact .inl ⟨r, hr, same⟩
        · split at hr
          · rcases List.mem_append.1 hr with old | new
            · exact .inl ⟨r, old, same⟩
            · obtain rfl := List.mem_singleton.1 new
              exact .inr ⟨w.id, same⟩
          · exact .inl (changed _ w.id (fun old => old.id_overwritten _ w.change now) hr)
    · exact .inr written

theorem serves_runAll {s : Session} {t : Table} (serves : s.Serves t) (h : WellFormed t)
    (edits : List Edit) :
    (runAll edits s).Serves (applyAll edits t) := by
  induction edits generalizing s t with
  | nil => exact serves
  | cons e edits ih => exact ih (serves_run serves h e) (h.apply e)

/-- A table that a session comes to see by edits, from the empty table on. -/
def Reachable (t : Table) : Prop :=
  ∃ (s : Session) (edits : List Edit), s.Serves [] ∧ (runAll edits s).view = some t

theorem Reachable.wellFormed {t : Table} (h : Reachable t) : WellFormed t := by
  obtain ⟨s, edits, serves, seen⟩ := h
  have served := serves_runAll serves .nil edits
  obtain rfl : applyAll edits [] = t := Option.some.inj (served.view.symm.trans seen)
  exact WellFormed.nil.applyAll edits

/-! ## The rows of one id -/

variable {t : Table} {x : UserId}

theorem rowsOf_apply_of_ne {e : Edit} (other : e.id ≠ x) (t : Table) :
    (e.apply t).rowsOf x.text = t.rowsOf x.text := by
  have otherText : x.text ≠ e.id.text := fun same => other (UserId.text_injective same).symm
  cases e with
  | write w now =>
    simp only [Edit.apply]
    split
    · rfl
    · split
      · rw [rowsOf_append_singleton, if_neg fun same => otherText same.symm, List.append_nil]
      · rw [rowsOf_modify fun row => row.id_overwritten _ _ now]
        exact if_neg otherText
  | erase id now =>
    rw [Edit.apply, rowsOf_modify fun row => row.id_erased now]
    exact if_neg otherText

theorem rowsOf_apply_nameless {w : Write} (nameless : w.name = none) (now : Instant) (t : Table) :
    ((Edit.write w now).apply t).rowsOf x.text = t.rowsOf x.text := by
  simp only [Edit.apply, nameless]

theorem rowsOf_apply_write {w : Write} {name : String} (named : w.name = some name)
    (now : Instant) (t : Table) :
    ((Edit.write w now).apply t).rowsOf w.id.text =
      if t.rowsOf w.id.text = [] then [User.row (w.user name now none) none]
      else (t.rowsOf w.id.text).map (·.overwritten name w.change now) := by
  simp only [Edit.apply, named]
  split
  · rename_i fresh
    rw [rowsOf_append_singleton, fresh, List.nil_append]
    exact if_pos rfl
  · rw [rowsOf_modify fun row => row.id_overwritten name w.change now, if_pos rfl]

theorem rowsOf_apply_erase (now : Instant) (t : Table) :
    ((Edit.erase x now).apply t).rowsOf x.text = (t.rowsOf x.text).map (·.erased now) := by
  rw [Edit.apply, rowsOf_modify fun row => row.id_erased now, if_pos rfl]

end UserDirectory.Directory

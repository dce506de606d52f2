import UserDirectory.Directory.Search
import UserDirectory.Proofs.Directory.Edit
import UserDirectory.Proofs.Directory.Page
import UserDirectory.Proofs.Transaction

/-!
# What operations come to

What a list, a search, a write and an erasure do in an open transaction, whatever the store does
with their statements, and when a healthy store leads to an answer. A read leaves the table as it
is. A write or an erasure that is answered has made its whole change.
-/
namespace UserDirectory.Directory

open Store Paging Time

/-- The row is that of a user, deleted or not. -/
def OfUser (row : Row) : Prop :=
  ∃ (u : User) (deletedAt : Option Instant), row = User.row u deletedAt

theorem WellFormed.ofUser {t : Table} (h : WellFormed t) {row : Row} (hrow : row ∈ t) :
    OfUser row := by
  obtain ⟨u, hu⟩ := h.users row hrow
  exact ⟨u, row.deletedAt, hu⟩

variable {c : Contents}

/-! ## Reading rows -/

section Reading

variable {α β : Type} {failed : Error → Prop}

/-- Each result is read from a member, and so is the first failure. -/
theorem mapM_reads {ε : Type} (f : α → Except ε β) (l : List α) :
    (∀ l', l.mapM f = .ok l' → ∀ b ∈ l', ∃ a ∈ l, f a = .ok b) ∧
      ∀ e, l.mapM f = .error e → ∃ a ∈ l, f a = .error e := by
  induction l with
  | nil => exact ⟨fun l' h => by cases h; exact nofun, nofun⟩
  | cons a l ih =>
    rw [List.mapM_cons]
    cases read : f a with
    | error e =>
      refine ⟨nofun, ?_⟩
      rintro _ ⟨⟩
      exact ⟨a, List.mem_cons_self, read⟩
    | ok b =>
      cases rest : l.mapM f with
      | error e =>
        refine ⟨nofun, ?_⟩
        rintro _ ⟨⟩
        obtain ⟨a', ha', unread⟩ := ih.2 e rest
        exact ⟨a', List.mem_cons_of_mem _ ha', unread⟩
      | ok bs =>
        refine ⟨?_, nofun⟩
        rintro _ ⟨⟩ b' hb'
        rcases List.mem_cons.1 hb' with rfl | later
        · exact ⟨a, List.mem_cons_self, read⟩
        · obtain ⟨a', ha', reads⟩ := ih.1 bs rest b' later
          exact ⟨a', List.mem_cons_of_mem _ ha', reads⟩

/-- The id of a row of a user is read. -/
theorem readId_within (row : Row) (any : ∀ stored e, failed (.storedId stored e)) :
    (readId row.id).Within c (OfUser row) (fun _ c' => c' = c) failed := by
  unfold readId
  split
  · exact .pure rfl
  · rename_i e unread
    refine .note_bind (.fail (any row.id e) ?_)
    rintro ⟨u, deletedAt, rfl⟩
    rw [User.id_row, UserId.parse_text] at unread
    cases unread

theorem forEach_within {f : α → Action Error β} {safe : Prop} {l : List α}
    (h : ∀ a ∈ l, (f a).Within c safe (fun _ c' => c' = c) failed) :
    (forEach f l).Within c safe (fun _ c' => c' = c) failed := by
  induction l with
  | nil => exact .pure rfl
  | cons a l ih =>
    refine .bind (h a List.mem_cons_self) ?_
    rintro b c' rfl
    refine .bind (ih fun a ha => h a (List.mem_cons_of_mem _ ha)) ?_
    rintro bs c' rfl
    exact .pure rfl

/-- Rows of users are read, the labels first. -/
theorem readRows_within {rows : List Row} {f : Row → Except LabelError α}
    {g : α → Action Error β} {safe : Prop} (users : safe → ∀ row ∈ rows, OfUser row)
    (labels : ∀ row, OfUser row → ∃ a, f row = .ok a)
    (ids : ∀ row a, f row = .ok a → (g a).Within c (OfUser row) (fun _ c' => c' = c) failed)
    (any : ∀ e, failed (.storedLabel e)) :
    (Action.ofExcept ((rows.mapM f).mapError .storedLabel) >>= forEach g).Within c safe
      (fun _ c' => c' = c) failed := by
  refine .ofExcept_bind ?_ ?_
  · intro as mapped
    refine forEach_within fun a ha => ?_
    obtain ⟨row, hrow, reads⟩ := (mapM_reads f rows).1 as mapped a ha
    exact (ids row a reads).mono (fun isSafe => users isSafe row hrow) (fun _ _ => id) fun _ => id
  · intro e mapped
    refine ⟨any e, fun isSafe => ?_⟩
    obtain ⟨row, hrow, unknown⟩ := (mapM_reads f rows).2 e mapped
    obtain ⟨a, known⟩ := labels row (users isSafe row hrow)
    rw [known] at unknown
    cases unknown

theorem readUsers_within {rows : List Row} {safe : Prop} (users : safe → ∀ row ∈ rows, OfUser row)
    (anyLabel : ∀ e, failed (.storedLabel e)) (anyId : ∀ stored e, failed (.storedId stored e)) :
    (readUsers rows).Within c safe (fun _ c' => c' = c) failed := by
  refine readRows_within users ?_ ?_ anyLabel
  · rintro row ⟨u, deletedAt, rfl⟩
    exact ⟨_, labelled_row u deletedAt⟩
  · intro row r read
    obtain ⟨rfl, -⟩ := ofRow_eq_ok read
    refine (readId_within r.row anyId).bind ?_
    rintro id c' rfl
    exact .pure rfl

/-- Users are found in rows whose types are known, whatever the entry points. -/
theorem readFoundUsers_within {rows : List Row} {safe : Prop}
    (users : safe → ∀ row ∈ rows, OfUser row) (anyLabel : ∀ e, failed (.storedLabel e))
    (anyId : ∀ stored e, failed (.storedId stored e)) :
    (readFoundUsers rows).Within c safe (fun _ c' => c' = c) failed := by
  refine readRows_within users ?_ ?_ anyLabel
  · rintro row ⟨u, deletedAt, rfl⟩
    exact ⟨⟨User.row u deletedAt, u.userType⟩,
      by simp [TypedRow.ofRow, readUserType, User.row, Except.map]⟩
  · intro row r read
    unfold TypedRow.ofRow at read
    cases typed : readUserType row.userType with
    | error e =>
      rw [typed] at read
      cases read
    | ok userType =>
      rw [typed] at read
      cases read
      refine (readId_within row anyId).bind ?_
      rintro id c' rfl
      exact .pure rfl

end Reading

/-! ## Lists and searches -/

/-- The query for the rows of a list. -/
def ListQuery.pageQuery (q : ListQuery) (policy : Policy) (after : Option Cursor) : PageQuery :=
  ⟨q.ids.map (·.map UserId.text), nonEmpty q.name, after, policy.pageSize q.pageSize⟩

/-- The store carries out the statement of a list, which it refuses beyond its limits. -/
def ListQuery.Served (q : ListQuery) (policy : Policy) (t : Table) : Prop :=
  ∀ after, readToken q.token = .ok after →
    ∃ rows t', page (q.pageQuery policy after) t = .ok (rows, t')

/-- The limit of a page within 64 bits and a filter within the store's limits are enough for
this. -/
theorem ListQuery.served_of_fits {q : ListQuery} {policy : Policy}
    (limit : isLimit (policy.pageSize q.pageSize) = true) (fits : Filter.Fits ⟨q.ids, q.name⟩)
    (t : Table) :
    q.Served policy t := fun after _ => ⟨_, t, page_of_fits (fits after _) limit t⟩

/-- A page is read from the table and leaves it as it is. -/
theorem page_eq_ok {q : PageQuery} {t t' : Table} {rows : List Row}
    (read : page q t = .ok (rows, t')) :
    t' = t ∧ ∀ row ∈ rows, row ∈ t := by
  obtain ⟨rfl, rfl⟩ := rows_of_page read
  exact ⟨rfl, fun row hrow => (PageQuery.mem_rows.1 (mem_of_mem_takeLimit hrow)).1⟩

theorem list_within (policy : Policy) (q : ListQuery) (c : Contents) :
    (list policy q).Within c
      ((∃ after, readToken q.token = .ok after) ∧ ∃ t, c = some t ∧ (∀ row ∈ t, OfUser row) ∧
        q.Served policy t)
      (fun p c' => c' = c ∧ (∃ after, readToken q.token = .ok after) ∧
        p.nextToken = nextToken p.users)
      (fun e => ∀ rejected, readToken q.token = .error rejected → e = .token rejected) := by
  refine .ofExcept_bind ?_ ?_
  · intro after accepted
    have notRejected : ∀ (e : Error) rejected, readToken q.token = .error rejected →
        e = .token rejected := by
      rw [accepted]
      exact nofun
    refine .execute_bind ?_ (fun _ => notRejected _) ?_
    · intro t rows t' stored read
      obtain ⟨rfl, listed⟩ := page_eq_ok read
      rw [← stored]
      refine .bind (readUsers_within ?_ (fun _ => notRejected _) fun _ _ => notRejected _) ?_
      · rintro ⟨-, t, stored', users, -⟩ row hrow
        obtain rfl := Option.some.inj (stored.symm.trans stored')
        exact users row (listed row hrow)
      · rintro users c' rfl
        exact .note_bind (.pure ⟨rfl, ⟨after, accepted⟩, rfl⟩)
    · rintro ⟨-, t, stored, -, served⟩
      obtain ⟨rows, t', read⟩ := served after accepted
      exact ⟨t, rows, t', stored, read⟩
  · intro rejected unread
    refine ⟨fun rejected' same => ?_, ?_⟩
    · rw [unread] at same
      exact congrArg Error.token (Except.error.inj same)
    · rintro ⟨⟨after, accepted⟩, -⟩
      rw [unread] at accepted
      cases accepted

theorem search_within (term : String) (c : Contents) :
    (search term).Within c (∃ t, c = some t ∧ ∀ row ∈ t, OfUser row) (fun _ c' => c' = c)
    (fun _ => True) := by
  have found : (Action.execute searchFailure (nearest term) >>= readFoundUsers).Within c
      (∃ t, c = some t ∧ ∀ row ∈ t, OfUser row) (fun _ c' => c' = c) (fun _ => True) := by
    refine .execute_bind ?_ (fun _ => trivial) ?_
    · intro t rows t' stored read
      obtain ⟨rfl, rfl⟩ := Prod.mk.inj (Except.ok.inj read)
      rw [← stored]
      refine readFoundUsers_within ?_ (fun _ => trivial) fun _ _ => trivial
      rintro ⟨t', stored', users⟩ row hrow
      obtain rfl := Option.some.inj (stored.symm.trans stored')
      obtain ⟨rated, hrated, rfl⟩ := List.mem_map.1 hrow
      obtain ⟨found, hfound, rfl⟩ :=
        List.mem_map.1 (List.mem_mergeSort.1 (List.mem_of_mem_take hrated))
      exact users found hfound
    · rintro ⟨t, stored, -⟩
      exact ⟨t, _, _, stored, rfl⟩
  refine .ofDialect (u := .unsupportedDialect) ?_ ?_ ?_ found found fun _ => trivial
  · intro s isSqlite
    simp only [search, searchVia, isSqlite]
  · intro s isPostgresql
    simp only [search, searchVia, isPostgresql]
    rfl
  · intro s name isOther
    simp only [search, searchVia, isOther]

/-! ## Writes and erasures -/

theorem readOutcome_within (created : Bool) (u : User) {safe : Prop} {failed : Error → Prop} :
    (readOutcome created (User.row u none)).Within c safe (fun _ c' => c' = c) failed := by
  unfold readOutcome
  rw [labelled_row]
  have read : (Action.ofExcept ((.ok ⟨User.row u none, u.userType, u.lastUpdatedWith⟩ :
      Except LabelError LabelledRow).mapError Error.storedLabel) >>= toUser).Within c safe
      (fun _ c' => c' = c) failed := by
    refine .ofExcept_bind ?_ nofun
    rintro _ ⟨⟩
    simp only [toUser, readId, User.id_row, UserId.parse_text]
    exact .pure rfl
  refine read.bind ?_
  rintro user c' rfl
  exact .note_bind (.pure rfl)

/-- A write that a healthy store carries out: it has a name, and its id no more than one row. -/
def Write.Storable (w : Write) (c : Contents) : Prop :=
  ∃ t, c = some t ∧ w.name ≠ none ∧ (t.rowsOf w.id.text).length ≤ 1

/-- What a write that is carried out has done, and the row it answers with. -/
structure Written (w : Write) (now : Instant) (c c' : Contents) (row : Row) : Prop where
  changed : ∃ t, c = some t ∧ c' = some ((Edit.write w now).apply t)
  user : ∃ u, row = User.row u none

section Statements

variable {w : Write} {name : String} {t : Table}

theorem Written.fresh (named : w.name = some name) (now : Instant)
    (fresh : t.rowsOf w.id.text = []) :
    Written w now (some t) (some (t ++ [User.row (w.user name now none) none]))
      (User.row (w.user name now none) none) :=
  ⟨⟨t, rfl, by rw [apply_fresh named now fresh]⟩, _, rfl⟩

theorem Written.only (named : w.name = some name) (now : Instant) {row : Row}
    (only : t.rowsOf w.id.text = [row]) :
    Written w now (some t) (some (t.modify w.id.text (·.overwritten name w.change now)))
      (row.overwritten name w.change now) := by
  have taken : t.rowsOf w.id.text ≠ [] := by simp [only]
  have same : row.id = w.id.text := (mem_rowsOf.1 (only ▸ List.mem_singleton.2 rfl)).2
  exact ⟨⟨t, rfl, by rw [apply_taken named now taken]⟩, _, overwritten_eq same name now⟩

theorem run_nameless (nameless : w.name = none) (now : Instant) (t : Table) :
    (w.statement now).run t = .error .missingName := by
  simp only [PostgresUpsert.run, Write.statement, Write.change, nameless]

theorem run_fresh (named : w.name = some name) (now : Instant) (fresh : t.rowsOf w.id.text = []) :
    (w.statement now).run t =
      .ok ((true, User.row (w.user name now none) none),
        t ++ [User.row (w.user name now none) none]) := by
  rw [Table.rowsOf] at fresh
  simp only [PostgresUpsert.run, Write.statement, Write.change, named, fresh]
  rfl

theorem run_only (named : w.name = some name) (now : Instant) {row : Row}
    (only : t.rowsOf w.id.text = [row]) :
    (w.statement now).run t =
      .ok ((false, row.overwritten name w.change now),
        t.modify w.id.text (·.overwritten name w.change now)) := by
  rw [Table.rowsOf] at only
  simp only [PostgresUpsert.run, Write.statement, Write.change, named, only]
  rfl

theorem run_several (named : w.name = some name) (now : Instant) {row other : Row} {more : List Row}
    (several : t.rowsOf w.id.text = row :: other :: more) :
    (w.statement now).run t = .error .severalRows := by
  rw [Table.rowsOf] at several
  simp only [PostgresUpsert.run, Write.statement, Write.change, named, several]

end Statements

theorem insertOrOverwrite_within (w : Write) (now : Instant) (c : Contents) :
    (insertOrOverwrite w now).Within c (w.Storable c) (fun r c' => Written w now c c' r.2)
      (fun e => e = .store .upsert) := by
  refine .inTransaction (.execute_bind ?_ (fun _ => rfl) ?_)
  · rintro t answer t' rfl inserted
    cases named : w.name with
    | none =>
      rw [insertNew_nameless named] at inserted
      cases inserted
    | some name =>
      by_cases fresh : t.rowsOf w.id.text = []
      · rw [insertNew_fresh named now fresh] at inserted
        cases inserted
        exact .pure (.fresh named now fresh)
      · rw [insertNew_taken named now fresh] at inserted
        cases inserted
        refine .execute_bind ?_ (fun _ => rfl) fun _ => ⟨t, _, _, rfl, overwrite_named named now t⟩
        rintro _ rows t' ⟨⟩ overwritten
        rw [overwrite_named named now t] at overwritten
        cases overwritten
        match rows : t.rowsOf w.id.text with
        | [] => exact absurd rows fresh
        | [row] => exact .pure (.only named now rows)
        | row :: other :: more =>
          -- More than one row is overwritten before the answer is refused; the transaction undoes
          -- this.
          refine .fail rfl ?_
          rintro ⟨_, ⟨⟩, -, few⟩
          simp [rows] at few
  · rintro ⟨t, stored, given, -⟩
    obtain ⟨name, named⟩ := Option.ne_none_iff_exists'.1 given
    by_cases fresh : t.rowsOf w.id.text = []
    · exact ⟨t, _, _, stored, insertNew_fresh named now fresh⟩
    · exact ⟨t, _, _, stored, insertNew_taken named now fresh⟩

/-- A server's one statement does the same. -/
theorem statement_within (w : Write) (now : Instant) (c : Contents) :
    (Action.execute writeFailure (w.statement now).run).Within c (w.Storable c)
      (fun r c' => Written w now c c' r.2)
      (fun e => e = .store .upsert) := by
  refine .execute ?_ (fun _ => rfl) ?_
  · rintro t answer t' rfl ran
    cases named : w.name with
    | none =>
      rw [run_nameless named] at ran
      cases ran
    | some name =>
      match rows : t.rowsOf w.id.text with
      | [] =>
        rw [run_fresh named now rows] at ran
        cases ran
        exact .fresh named now rows
      | [row] =>
        rw [run_only named now rows] at ran
        cases ran
        exact .only named now rows
      | row :: other :: more =>
        rw [run_several named now rows] at ran
        cases ran
  · rintro ⟨t, stored, given, few⟩
    obtain ⟨name, named⟩ := Option.ne_none_iff_exists'.1 given
    match rows : t.rowsOf w.id.text with
    | [] => exact ⟨t, _, _, stored, run_fresh named now rows⟩
    | [row] => exact ⟨t, _, _, stored, run_only named now rows⟩
    | row :: other :: more => simp [rows] at few

theorem write_within (w : Write) (now : Instant) (c : Contents) :
    (write w now).Within c (w.Storable c)
      (fun _ c' => ∃ t, c = some t ∧ c' = some ((Edit.write w now).apply t))
      (fun e => e = .store .upsert ∨ ∃ name, e = .unsupportedDialect name) := by
  -- Either way of writing answers with the row of a user, whose labels and id are read.
  have read : ∀ x : Action Error (Bool × Row),
      x.Within c (w.Storable c) (fun r c' => Written w now c c' r.2) (fun e => e = .store .upsert) →
      (x >>= fun r => readOutcome r.1 r.2).Within c (w.Storable c)
        (fun _ c' => ∃ t, c = some t ∧ c' = some ((Edit.write w now).apply t))
        (fun e => e = .store .upsert ∨ ∃ name, e = .unsupportedDialect name) := by
    intro x hx
    refine (hx.mono id (fun _ _ => id) fun _ => .inl).bind ?_
    rintro ⟨created, row⟩ c' ⟨changed, u, rfl⟩
    refine (readOutcome_within created u).mono id ?_ fun _ => id
    rintro _ c' rfl
    exact changed
  refine .ofDialect (u := .unsupportedDialect) ?_ ?_ ?_ (read _ (insertOrOverwrite_within w now c))
    (read _ (statement_within w now c)) fun name => .inr ⟨name, rfl⟩
  · intro s isSqlite
    simp only [write, writeVia, isSqlite]
  · intro s isPostgresql
    simp only [write, writeVia, isPostgresql]
  · intro s name isOther
    simp only [write, writeVia, isOther]

theorem erase_within (id : UserId) (now : Instant) (c : Contents) :
    (erase id now).Within c (∃ t, c = some t)
      (fun found c' => ∃ t, c = some t ∧ c' = some ((Edit.erase id now).apply t) ∧
        (found = true ↔ t.rowsOf id.text ≠ []))
      (fun e => e = .store .erase) := by
  refine .execute_bind ?_ (fun _ => rfl) ?_
  · rintro t n t' stored erased
    obtain ⟨rfl, rfl⟩ := Prod.mk.inj (Except.ok.inj erased)
    refine .note_bind (.pure ⟨t, stored, rfl, ?_⟩)
    rw [decide_eq_true_iff, List.length_pos_iff]
    exact Iff.rfl
  · rintro ⟨t, stored⟩
    exact ⟨t, _, _, stored, rfl⟩

end UserDirectory.Directory

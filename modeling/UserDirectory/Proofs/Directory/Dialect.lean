import UserDirectory.Proofs.Directory.Operation
import UserDirectory.Proofs.Directory.Transcript

/-!
# Two dialects, one directory

The embedded store writes with two statements in a transaction, a server with one statement. On a
table with distinct ids both do the edit of the write and show the same row. So a directory on the
one store and a directory on the other that see one table answer alike, whatever is done with them,
and go on seeing one table.
-/
namespace UserDirectory.Directory

open Store Paging Time UserDirectory.Action

/-! ## One write -/

/-- The server's statement and the two of the embedded store have one answer, and leave the edited
table. -/
theorem statement_answers {t : Table} (distinct : t.DistinctIds) (w : Write) (now : Instant) :
    ∃ answer,
      Session.answer (w.statement now).run (some t) =
        (answer, some ((Edit.write w now).apply t)) ∧
      (insertOrOverwrite w now).Yields t (answer.mapError writeFailure)
        ((Edit.write w now).apply t) := by
  cases named : w.name with
  | none =>
    have unchanged : (Edit.write w now).apply t = t := by simp only [Edit.apply, named]
    refine ⟨.error .missingName, ?_, ?_⟩
    · simp only [Session.answer, run_nameless named, unchanged]
    · rw [unchanged]
      exact insertOrOverwrite_nameless named now t
  | some name =>
    by_cases fresh : t.rowsOf w.id.text = []
    · refine ⟨.ok (true, User.row (w.user name now none) none), ?_, ?_⟩
      · simp only [Session.answer, run_fresh named now fresh, apply_fresh named now fresh]
      · rw [apply_fresh named now fresh]
        exact insertOrOverwrite_new named now fresh
    · obtain ⟨row, only⟩ := distinct.exists_rowsOf fresh
      refine ⟨.ok (false, row.overwritten name w.change now), ?_, ?_⟩
      · simp only [Session.answer, run_only named now only, apply_taken named now fresh]
      · rw [apply_taken named now fresh]
        exact insertOrOverwrite_old named now only

/-! ## Directories that see one table -/

/-- A session of the embedded store and one of a server, both in service, that see one table with
distinct ids. -/
structure SeeingOne (s s' : Session) (t : Table) : Prop where
  embedded : s.Serves t
  dialect : s'.dialect = .postgresql
  outages : s'.outages = []
  view : s'.view = some t
  distinct : t.DistinctIds

def Twins (s s' : Session) : Prop := ∃ t, SeeingOne s s' t

theorem SeeingOne.seeing {s s' : Session} {t t' : Table} (h : SeeingOne s s' t)
    (distinct : t'.DistinctIds) :
    SeeingOne (s.seeing t') (s'.seeing t') t' :=
  ⟨h.embedded.seeing t', h.dialect, h.outages, rfl, distinct⟩

/-- Where no statement fails, the session is left with what the statement leaves. -/
theorem execute_of_inService {α : Type} {s : Session} {t : Table} (inService : s.outages = [])
    (sees : s.view = some t) (stmt : Statement α) :
    ∃ t', (Session.answer stmt (some t)).2 = some t' ∧
      s.execute stmt = ((Session.answer stmt (some t)).1, s.seeing t') := by
  obtain ⟨committed, transaction, dialect, outages⟩ := s
  obtain rfl : outages = [] := inService
  simp only [Session.execute, sees, Session.answer]
  cases stmt t with
  | error refusal => exact ⟨t, rfl, rfl⟩
  | ok done => exact ⟨done.2, rfl, rfl⟩

/-- A statement that leaves the ids distinct has one answer on both sides. -/
theorem execute_twins {α : Type} {failure : Refusal → Error} {stmt : Statement α}
    (keeps : ∀ t a t', t.DistinctIds → stmt t = .ok (a, t') → t'.DistinctIds) :
    Coupled Twins Eq (Action.execute failure stmt) (Action.execute failure stmt) := by
  refine .execute ?_
  rintro s s' ⟨t, one⟩
  obtain ⟨t', left, ran⟩ := execute_of_inService one.embedded.outages one.embedded.view stmt
  obtain ⟨t'', left', ran'⟩ := execute_of_inService one.outages one.view stmt
  obtain rfl := Option.some.inj (left.symm.trans left')
  have distinct : t'.DistinctIds := by
    simp only [Session.answer] at left
    split at left
    · rename_i a t'' done
      exact Option.some.inj left ▸ keeps t a t'' one.distinct done
    · exact Option.some.inj left ▸ one.distinct
  rw [ran, ran']
  exact ⟨.refl _, t', one.seeing distinct⟩

/-- What the two statements do is what the one does. -/
theorem statements_agree {s s' : Session} {t : Table} (one : SeeingOne s s' t) (w : Write)
    (now : Instant) :
    (insertOrOverwrite w now s).outcome =
        (Action.execute writeFailure (w.statement now).run s').outcome ∧
      SeeingOne (insertOrOverwrite w now s).session
        (Action.execute writeFailure (w.statement now).run s').session
        ((Edit.write w now).apply t) := by
  obtain ⟨answer, answered, yields⟩ := statement_answers one.distinct w now
  obtain ⟨outcome, serves, -⟩ := yields s one.embedded
  obtain ⟨t', left, ran⟩ := execute_of_inService one.outages one.view (w.statement now).run
  rw [answered] at left ran
  obtain rfl := Option.some.inj left
  rw [outcome]
  simp only [Action.execute, ran]
  exact ⟨trivial, serves, one.dialect, one.outages, rfl, distinctIds_apply one.distinct _⟩

theorem write_agrees {s s' : Session} {t : Table} (one : SeeingOne s s' t) (w : Write)
    (now : Instant) :
    (write w now s).outcome = (write w now s').outcome ∧
      SeeingOne (write w now s).session (write w now s').session ((Edit.write w now).apply t) := by
  have still : ∀ r : Bool × Row, (readOutcome r.1 r.2).Still := fun r => readOutcome_still r.1 r.2
  have coupled : Coupled Twins Eq (insertOrOverwrite w now >>= fun r => readOutcome r.1 r.2)
      (Action.execute writeFailure (w.statement now).run >>= fun r => readOutcome r.1 r.2) := by
    refine .bind (P := Eq) ?_ ?_
    · rintro s s' ⟨t, one⟩
      obtain ⟨same, after⟩ := statements_agree one w now
      exact ⟨same ▸ .refl _, _, after⟩
    · rintro r _ rfl
      exact .of_still (still r)
  have path : write w now s = (insertOrOverwrite w now >>= fun r => readOutcome r.1 r.2) s := by
    simp only [write, writeVia, one.embedded.dialect]
  have path' : write w now s' =
      (Action.execute writeFailure (w.statement now).run >>= fun r => readOutcome r.1 r.2) s' := by
    simp only [write, writeVia, one.dialect]
  rw [path, path']
  refine ⟨(coupled s s' ⟨t, one⟩).1.eq, ?_⟩
  rw [Coupled.session_bind still, Coupled.session_bind still]
  exact (statements_agree one w now).2

/-- A read leaves the table as it is. -/
theorem page_keeps {q : PageQuery} {t t' : Table} {rows : List Row} (distinct : t.DistinctIds)
    (read : page q t = .ok (rows, t')) : t'.DistinctIds :=
  (page_eq_ok read).1 ▸ distinct

theorem erase_keeps {id : String} {now : Instant} {t t' : Table} {n : Nat}
    (distinct : t.DistinctIds) (erased : Store.erase id now t = .ok (n, t')) : t'.DistinctIds := by
  rw [Table.DistinctIds, ids_erase erased]
  exact distinct

theorem nearest_keeps {term : String} {t t' : Table} {rows : List Row} (distinct : t.DistinctIds)
    (read : nearest term t = .ok (rows, t')) : t'.DistinctIds := by
  obtain ⟨-, rfl⟩ := Prod.mk.inj (Except.ok.inj read)
  exact distinct

/-- A directory on the one and a directory on the other cannot be told apart. -/
theorem twins_indistinct : Indistinct Twins where
  speaks := by
    rintro s s' ⟨t, one⟩ name
    simp [one.embedded.dialect, one.dialect]
  write := by
    rintro w now s s' ⟨t, one⟩
    obtain ⟨same, after⟩ := write_agrees one w now
    exact ⟨same ▸ .refl _, _, after⟩
  erase _ _ := execute_twins fun _ _ _ => erase_keeps
  page _ := execute_twins fun _ _ _ => page_keeps
  nearest _ := execute_twins fun _ _ _ => nearest_keeps
  commit := by
    rintro s s' ⟨t, one⟩
    exact ⟨t, one.embedded.commit, one.dialect, one.outages, one.view, one.distinct⟩

/-- A write has one outcome whichever store carries it out: whether the row was inserted, the row,
the user and the table after it are the same. So are the answers and the table of runs of any
length. -/
theorem dialects_agree {t : Table} (distinct : t.DistinctIds) {s s' : Session}
    (embedded : s.Serves t) (remote : s'.dialect = .postgresql) (inService : s'.outages = [])
    (same : s'.view = some t) :
    (∀ (w : Write) (now : Instant),
      (insertOrOverwrite w now s).outcome =
        (Action.execute writeFailure (w.statement now).run s').outcome ∧
      (write w now s).outcome = (write w now s').outcome ∧
      (write w now s).session.view = some ((Edit.write w now).apply t) ∧
      (write w now s').session.view = some ((Edit.write w now).apply t)) ∧
    ∀ os : List Operation, (transcript os s).1 = (transcript os s').1 ∧
      (transcript os s).2.view = (transcript os s').2.view := by
  have one : SeeingOne s s' t := ⟨embedded, remote, inService, same, distinct⟩
  refine ⟨fun w now => ?_, fun os => ?_⟩
  · obtain ⟨answer, after⟩ := write_agrees one w now
    exact ⟨(statements_agree one w now).1, answer, after.embedded.view, after.view⟩
  · obtain ⟨answers, t', last⟩ := twins_indistinct.transcript_eq os ⟨t, one⟩
    exact ⟨answers, last.embedded.view.trans last.view.symm⟩

/-- One row was erased and another holds no known label: the user of the one is brought back, erased
again and not brought back without a name. -/
theorem dialects_agree_brought_back :
    let ada : UserId := ⟨.oidc, "ada", by decide⟩
    let first : Instant := ⟨7, by decide, by decide⟩
    let second : Instant := ⟨9, by decide, by decide⟩
    let erased : Row :=
      ⟨"oidc~ada", "Deleted User", none, "create-endpoint", "human", first, some first, some first⟩
    let unknown : Row := ⟨"", "Eve", some "eve", "import", "robot", second, none, none⟩
    let person : Write := ⟨ada, some "Ada", some "ada@example.org", .application, .updateEndpoint⟩
    let written : User :=
      ⟨ada, "Ada", some "ada@example.org", .application, .updateEndpoint, first, some second⟩
    let edits : List Operation := [.edit (.write person second), .edit (.erase ada second),
      .edit (.write { person with name := none } second)]
    let s' : Session := { committed := some [erased, unknown], dialect := .postgresql }
    Table.DistinctIds [erased, unknown] ∧
    (write person second s').outcome = .ok (.updated written) ∧
    (write person second s').session.view = some [User.row written none, unknown] ∧
    (transcript edits s').1 =
      [.written (.ok (.updated written)), .erased (.ok true), .written (.error (.store .upsert))] ∧
    (transcript edits s').2.view = some [(User.row written none).erased second, unknown] := by
  intro ada first second erased unknown person written edits s'
  have distinct : Table.DistinctIds [erased, unknown] := by decide +kernel
  have embedded : Session.Serves { committed := some [erased, unknown] } [erased, unknown] :=
    ⟨rfl, rfl, rfl⟩
  have remote : s'.dialect = .postgresql := rfl
  obtain ⟨writes, runs⟩ := dialects_agree distinct embedded remote rfl rfl
  obtain ⟨-, answer, -, after⟩ := writes person second
  obtain ⟨answers, table⟩ := runs edits
  refine ⟨distinct, answer.symm.trans ?_, after.trans ?_, answers.symm.trans ?_,
    table.symm.trans ?_⟩ <;>
    decide +kernel

end UserDirectory.Directory

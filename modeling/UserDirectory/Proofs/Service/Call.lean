import Mathlib.Data.List.Induction
import UserDirectory.Proofs.Directory.Operation
import UserDirectory.Service

/-!
# Calls of the service

A call on a session without an open transaction opens one and closes it again, whether it answers or
fails. A read or a failure leaves the committed table as it is, and a write or a deletion that is
answered has made its whole change.
-/
namespace UserDirectory

open Store Paging Input Time Directory

/-! ## Calls -/

/-- A request to the service, with the reading of the clock where the service reads it. -/
inductive Call
  | list (q : ListRequest)
  | upsert (q : UpsertRequest) (now : Instant)
  | delete (id : UserId) (now : Instant)
  | search (q : SearchRequest)

inductive Reply
  | page (page : Page)
  | written (outcome : Outcome)
  | deleted
  | found (users : List FoundUser)

/-- What a request asks to be written. -/
def Input.UpsertRequest.asWrite (q : UpsertRequest) : Write :=
  ⟨q.id, some q.name, q.email, q.userType, q.lastUpdatedWith⟩

def Input.ListRequest.asQuery (q : ListRequest) : ListQuery :=
  ⟨q.filterIds, q.filterName, q.pageToken, q.pageSize⟩

namespace Call

def action (service : Service) : Call → Action ServiceError Reply
  | .list q => do return .page (← service.list q)
  | .upsert q now => do return .written (← Service.upsert q (some now))
  | .delete id now => do
    Service.delete id (some now)
    return .deleted
  | .search q => do return .found (← Service.search q)

/-- The edit of the table that a call asks for, if it is no read. -/
def edit? : Call → Option Edit
  | .upsert q now => some (.write q.asWrite now)
  | .delete id now => some (.erase id now)
  | .list _ | .search _ => none

end Call

/-- The session after some calls. -/
def Service.run (service : Service) (calls : List Call) (s : Session) : Session :=
  calls.foldl (fun s call => (call.action service s).session) s

/-! ## Endings -/

/-- How a request ends on a session without an open transaction. -/
structure Closes {α : Type} (r : Execution ServiceError α) (s : Session) (safe : Prop)
    (done : α → Contents → Prop) (failed : ServiceError → Prop) : Prop where
  closed : r.session.inTransaction = false
  answered : ∀ a, r.outcome = .ok a → done a r.session.committed
  refused : ∀ e, r.outcome = .error e → r.session.committed = s.committed ∧ failed e ∧
    (s.Healthy → ¬ safe)

namespace Service

variable {α : Type} {s : Session}

theorem view_eq_committed (closed : s.inTransaction = false) : s.view = s.committed := by
  have none : s.transaction = none := by simpa [Session.inTransaction] using closed
  simp [Session.view, none]

/-- A request ends with its transaction if it passes on what comes of an action in it. -/
theorem closes_of_close {x : Action Directory.Error α} {r : Execution ServiceError α}
    {h : Directory.Error → ServiceError} {safe : Prop} {done : α → Contents → Prop}
    {failed : Directory.Error → Prop} (closed : s.inTransaction = false)
    (hx : x.Within s.committed safe done failed)
    (session : r.session = (Action.close (x s.opened)).session)
    (outcome : r.outcome = (x s.opened).outcome.mapError h) :
    Closes r s safe done (fun e' => ∃ e, failed e ∧ e' = h e) := by
  have ends := hx s.opened rfl ((Session.view_opened s).trans (view_eq_committed closed))
  cases ended : (x s.opened).outcome with
  | ok a =>
    have committed : r.session = (x s.opened).session.commit := by rw [session, Action.close, ended]
    have answer : r.outcome = .ok a := by rw [outcome, ended]; rfl
    refine ⟨by rw [committed]; rfl, fun b answered => ?_, fun e refused => ?_⟩
    · obtain rfl := Except.ok.inj (answer.symm.trans answered)
      rw [committed]
      exact ends.answered a ended
    · rw [answer] at refused
      cases refused
  | error e =>
    have undone : r.session = (x s.opened).session.rollback := by rw [session, Action.close, ended]
    have failure : r.outcome = .error (h e) := by rw [outcome, ended]; rfl
    refine ⟨by rw [undone]; rfl, fun b answered => ?_, fun e' refused => ?_⟩
    · rw [failure] at answered
      cases answered
    · obtain rfl := Except.error.inj (failure.symm.trans refused)
      obtain ⟨reason, notSafe⟩ := ends.refused e ended
      rw [undone]
      exact ⟨ends.committed, ⟨e, reason, rfl⟩,
        fun healthy => notSafe ⟨healthy.dialect, healthy.outages⟩⟩

theorem reading_of_closed (closed : s.inTransaction = false) (x : Action Directory.Error α) :
    reading x s = ⟨.ok (x s.opened).outcome, (Action.close (x s.opened)).session,
      (x s.opened).events⟩ := by
  rw [reading, if_neg (by simp [closed])]
  simp only [Action.attempt, Action.inOwnTransaction, Action.close]
  cases (x s.opened).outcome <;> rfl

theorem writing_of_closed (closed : s.inTransaction = false) (x : Action Directory.Error α) :
    writing x s = ⟨.ok (x s.opened).outcome, (x s.opened).session, (x s.opened).events⟩ := by
  rw [writing, if_neg (by simp [closed])]
  rfl

/-! ## Reads -/

/-- What the failure of a list is for clients. -/
def listError : Directory.Error → ServiceError
  | .token e => .http (.badToken e)
  | .storedLabel e => .directory (.storedLabel e)
  | .limitOutOfRange => .directory .limitOutOfRange
  | _ => .http .listFailed

theorem list_of_closed (service : Service) (q : ListRequest) (closed : s.inTransaction = false) :
    let r := Directory.list service.policy q.asQuery s.opened
    (service.list q s).session = (Action.close r).session ∧
      (service.list q s).outcome = r.outcome.mapError listError := by
  intro r
  have noted :
      (Action.note (.listRequested q.filterName q.filterIds q.pageSize) :
        Action ServiceError Unit) s = ⟨.ok (), s, _⟩ := rfl
  rw [Service.list, Action.bind_apply_ok noted, Action.bind_apply_ok (reading_of_closed closed _)]
  have path : Directory.list service.policy ⟨q.filterIds, q.filterName, q.pageToken, q.pageSize⟩
    s.opened = r := rfl
  rw [path]
  cases ended : r.outcome with
  | ok page => exact ⟨rfl, rfl⟩
  | error e => cases e <;> exact ⟨rfl, rfl⟩

theorem list_closes (service : Service) (q : ListRequest) (closed : s.inTransaction = false) :
    Closes (service.list q s) s
      ((∃ after, readToken q.pageToken = .ok after) ∧
        ∃ t, s.committed = some t ∧ (∀ row ∈ t, OfUser row) ∧ q.asQuery.Served service.policy t)
      (fun p c' => c' = s.committed ∧ (∃ after, readToken q.pageToken = .ok after) ∧
        p.nextToken = nextToken p.users)
      (fun e' => ∃ e, (∀ rejected, readToken q.pageToken = .error rejected → e = .token rejected) ∧
        e' = listError e) := by
  obtain ⟨session, outcome⟩ := list_of_closed service q closed
  exact closes_of_close closed (list_within service.policy q.asQuery s.committed) session outcome

/-- What the failure of a search is for clients. -/
def searchError : Directory.Error → ServiceError
  | .storedLabel e => .directory (.storedLabel e)
  | _ => .http .searchFailed

theorem search_of_closed (q : SearchRequest) (closed : s.inTransaction = false) :
    let r := Directory.search q.term s.opened
    (search q s).session = (Action.close r).session ∧
    (search q s).outcome = r.outcome.mapError searchError := by
  intro r
  have noted : (Action.note (.searchRequested q.term) : Action ServiceError Unit) s =
    ⟨.ok (), s, _⟩ := rfl
  rw [search, Action.bind_apply_ok noted, Action.bind_apply_ok (reading_of_closed closed _)]
  have path : Directory.search q.term s.opened = r := rfl
  rw [path]
  cases ended : r.outcome with
  | ok users => exact ⟨rfl, rfl⟩
  | error e => cases e <;> exact ⟨rfl, rfl⟩

theorem search_closes (q : SearchRequest) (closed : s.inTransaction = false) :
    Closes (search q s) s (∃ t, s.committed = some t ∧ ∀ row ∈ t, OfUser row)
      (fun _ c' => c' = s.committed)
      (fun e' => ∃ e, True ∧ e' = searchError e) := by
  obtain ⟨session, outcome⟩ := search_of_closed q closed
  exact closes_of_close closed (search_within q.term s.committed) session outcome

/-! ## Writes and deletions -/

/-- A write that fails does so as writes do, and is reported as a failed write. -/
theorem upsert_of_closed (q : UpsertRequest) (now : Instant) (closed : s.inTransaction = false) :
    let r := write q.asWrite now s.opened
    (upsert q (some now) s).session = (Action.close r).session ∧
      (upsert q (some now) s).outcome = r.outcome.mapError fun _ => .http .writeFailed := by
  intro r
  have ends := write_within q.asWrite now s.committed s.opened rfl
    ((Session.view_opened s).trans (view_eq_committed closed))
  have noted :
      (Action.note (.upsertRequested q.id q.userType q.lastUpdatedWith) :
        Action ServiceError Unit) s = ⟨.ok (), s, _⟩ := rfl
  have path : Directory.atReading (some now)
      (Directory.write ⟨q.id, some q.name, q.email, q.userType, q.lastUpdatedWith⟩) s.opened = r :=
        rfl
  rw [upsert, Action.bind_apply_ok noted, Action.bind_apply_ok (writing_of_closed closed _), path]
  cases ended : r.outcome with
  | ok outcome =>
    rw [Action.close, ended]
    exact ⟨rfl, rfl⟩
  | error e =>
    rw [Action.close, ended]
    obtain ⟨rfl | ⟨name, rfl⟩, -⟩ := ends.refused e ended
    · exact ⟨rfl, rfl⟩
    · exact ⟨rfl, rfl⟩

theorem upsert_closes (q : UpsertRequest) (now : Instant) (closed : s.inTransaction = false) :
    Closes (upsert q (some now) s) s (q.asWrite.Storable s.committed)
      (fun _ c' => ∃ t, s.committed = some t ∧ c' = some ((Edit.write q.asWrite now).apply t))
      (fun e' => e' = .http .writeFailed) := by
  obtain ⟨session, outcome⟩ := upsert_of_closed q now closed
  have closes := closes_of_close closed (write_within q.asWrite now s.committed) session outcome
  refine ⟨closes.closed, closes.answered, fun e' refused => ?_⟩
  obtain ⟨same, ⟨e, -, rfl⟩, notSafe⟩ := closes.refused e' refused
  exact ⟨same, rfl, notSafe⟩

/-- What is written in the transaction of a request is its answer, and is kept. -/
theorem upsert_of_written {q : UpsertRequest} {now : Instant} {t : Table} {outcome : Outcome}
    (closed : s.inTransaction = false) (stored : s.committed = some t)
    (written : (write q.asWrite now s.opened).outcome = .ok outcome) :
    (upsert q (some now) s).outcome = .ok outcome ∧
      (upsert q (some now) s).session.committed = some ((Edit.write q.asWrite now).apply t) := by
  have answered : (upsert q (some now) s).outcome = .ok outcome := by
    rw [(upsert_of_closed q now closed).2, written]
    rfl
  obtain ⟨t', stored', after⟩ := (upsert_closes q now closed).answered outcome answered
  obtain rfl := Option.some.inj (stored.symm.trans stored')
  exact ⟨answered, after⟩

/-- A deletion that finds no user has changed nothing. -/
theorem delete_closes (id : UserId) (now : Instant) (closed : s.inTransaction = false) :
    Closes (delete id (some now) s) s (∃ t, s.committed = some t ∧ t.rowsOf id.text ≠ [])
      (fun _ c' => ∃ t, s.committed = some t ∧ t.rowsOf id.text ≠ [] ∧
        c' = some ((Edit.erase id now).apply t))
      (fun e' => (e' = .http .userNotFound ∧ ∃ t, s.committed = some t ∧ t.rowsOf id.text = []) ∨
        (e' = .http .eraseFailed ∧ (s.Healthy → s.committed = none))) := by
  have ends := erase_within id now s.committed s.opened rfl
    ((Session.view_opened s).trans (view_eq_committed closed))
  have noted : (Action.note (.eraseRequested id) : Action ServiceError Unit) s = ⟨.ok (), s, _⟩ :=
    rfl
  have path : Directory.atReading (some now) (Directory.erase id) s.opened =
    Directory.erase id now s.opened := rfl
  rw [delete, Action.bind_apply_ok noted, Action.bind_apply_ok (writing_of_closed closed _), path]
  cases ended : (Directory.erase id now s.opened).outcome with
  | error e =>
    obtain ⟨rfl, notSafe⟩ := ends.refused e ended
    refine ⟨rfl, nofun, ?_⟩
    rintro _ ⟨⟩
    have gone : s.Healthy → s.committed = none := by
      intro healthy
      have noTable := notSafe ⟨healthy.dialect, healthy.outages⟩
      cases stored : s.committed with
      | none => rfl
      | some t => exact absurd ⟨t, stored⟩ noTable
    refine ⟨ends.committed, .inr ⟨rfl, gone⟩, fun healthy => ?_⟩
    rintro ⟨t, stored, -⟩
    rw [gone healthy] at stored
    cases stored
  | ok found =>
    obtain ⟨t, stored, after, isFound⟩ := ends.answered found ended
    cases found with
    | true =>
      refine ⟨rfl, ?_, nofun⟩
      rintro _ ⟨⟩
      exact ⟨t, stored, isFound.1 rfl, after⟩
    | false =>
      have missing : t.rowsOf id.text = [] := by simpa using isFound
      have unchanged : (Edit.erase id now).apply t = t := modify_of_rowsOf_eq_nil missing
      refine ⟨rfl, nofun, ?_⟩
      rintro _ ⟨⟩
      refine ⟨?_, .inl ⟨rfl, t, stored, missing⟩, fun _ => ?_⟩
      · rw [stored, ← unchanged]
        exact after
      · rintro ⟨t', stored', taken⟩
        obtain rfl := Option.some.inj (stored.symm.trans stored')
        exact taken missing

end Service

/-! ## Calls of any kind -/

/-- A reply is the answer of the request. -/
theorem reply_apply {α : Type} (x : Action ServiceError α) (k : α → Reply) (s : Session) :
    ((x >>= fun a => pure (k a)) s).session = (x s).session ∧
      ((x >>= fun a => pure (k a)) s).outcome = (x s).outcome.map k := by
  cases ended : (x s).outcome with
  | ok a =>
    rw [Action.bind_of_ok ended]
    exact ⟨rfl, rfl⟩
  | error e =>
    rw [Action.bind_of_error ended]
    exact ⟨rfl, rfl⟩

/-- What a call leaves committed if it is answered. -/
def Call.Made (call : Call) (c c' : Contents) : Prop :=
  match call.edit? with
  | none => c' = c
  | some e => ∃ t, c = some t ∧ c' = some (e.apply t)

/-- A call ends as its request does. -/
theorem Closes.reply {α : Type} {x : Action ServiceError α} {s : Session} {safe : Prop}
    {done : α → Contents → Prop} {failed : ServiceError → Prop} {made : Contents → Prop}
    (h : Closes (x s) s safe done failed) (k : α → Reply) (answer : ∀ a c', done a c' → made c')
    (failure : ∀ e, failed e → e ≠ .transactionOpen) :
    Closes ((x >>= fun a => pure (k a)) s) s False (fun _ c' => made c')
      (fun e => e ≠ .transactionOpen) := by
  obtain ⟨session, outcome⟩ := reply_apply x k s
  refine ⟨by rw [session]; exact h.closed, fun reply answered => ?_, fun e refused => ?_⟩
  · rw [session]
    cases ended : (x s).outcome with
    | error e =>
      rw [outcome, ended] at answered
      cases answered
    | ok a => exact answer a _ (h.answered a ended)
  · rw [session]
    cases ended : (x s).outcome with
    | ok a =>
      rw [outcome, ended] at refused
      cases refused
    | error e' =>
      rw [outcome, ended] at refused
      cases refused
      obtain ⟨same, reason, -⟩ := h.refused _ ended
      exact ⟨same, failure _ reason, fun _ => id⟩

theorem Call.closes (service : Service) (call : Call) {s : Session}
    (closed : s.inTransaction = false) :
    Closes (call.action service s) s False (fun _ c' => call.Made s.committed c')
      (fun e => e ≠ .transactionOpen) := by
  cases call with
  | list q =>
    refine (Service.list_closes service q closed).reply .page (fun _ _ done => done.1) ?_
    rintro _ ⟨e, -, rfl⟩
    cases e <;> exact nofun
  | search q =>
    refine (Service.search_closes q closed).reply .found (fun _ _ => id) ?_
    rintro _ ⟨e, -, rfl⟩
    cases e <;> exact nofun
  | upsert q now =>
    refine (Service.upsert_closes q now closed).reply .written (fun _ _ => id) ?_
    rintro _ rfl
    exact nofun
  | delete id now =>
    refine (Service.delete_closes id now closed).reply (fun _ => .deleted) ?_ ?_
    · rintro _ c' ⟨t, stored, -, after⟩
      exact ⟨t, stored, after⟩
    · rintro _ (⟨rfl, -⟩ | ⟨rfl, -⟩) <;> exact nofun

/-! ## Runs of calls -/

namespace Service

variable {service : Service} {s : Session}

theorem run_concat (calls : List Call) (call : Call) (s : Session) :
    service.run (calls ++ [call]) s = (call.action service (service.run calls s)).session := by
  simp [run]

theorem closed_run (closed : s.inTransaction = false) (calls : List Call) :
    (service.run calls s).inTransaction = false := by
  induction calls using List.reverseRecOn with
  | nil => exact closed
  | append_singleton calls call ih =>
    rw [run_concat]
    exact (call.closes service ih).closed

/-- What the edits of some calls keep is kept by a run of them, whatever the store does. -/
theorem committed_run {P : Table → Prop} (closed : s.inTransaction = false) {calls : List Call}
    (keeps : ∀ call ∈ calls, ∀ e ∈ call.edit?, ∀ t, P t → P (e.apply t)) {t : Table}
    (start : s.committed = some t)
    (holds : P t) : ∃ t', (service.run calls s).committed = some t' ∧ P t' := by
  induction calls using List.reverseRecOn with
  | nil => exact ⟨t, start, holds⟩
  | append_singleton calls call ih =>
    obtain ⟨t', committed, kept⟩ := ih fun c hc => keeps c (List.mem_append_left _ hc)
    have last := keeps call (List.mem_append_right _ List.mem_cons_self)
    have stays : (service.run calls s).inTransaction = false := closed_run closed calls
    have closes := call.closes service stays
    rw [run_concat]
    cases ended : (call.action service (service.run calls s)).outcome with
    | error e => exact ⟨t', (closes.refused e ended).1.trans committed, kept⟩
    | ok reply =>
      have made := closes.answered reply ended
      unfold Call.Made at made
      cases edit : call.edit? with
      | none =>
        simp only [edit] at made
        exact ⟨t', made.trans committed, kept⟩
      | some e =>
        simp only [edit] at made
        obtain ⟨before, stored, after⟩ := made
        obtain rfl := Option.some.inj (committed.symm.trans stored)
        exact ⟨_, after, last e edit t' kept⟩

/-- After any calls on a session without an open transaction, whatever the store does, there is
none. A further call leaves none either. It leaves what is committed as it is if it fails or reads,
and else has made its one edit. -/
theorem calls_all_or_nothing (service : Service) (closed : s.inTransaction = false)
    (calls : List Call) (call : Call) :
    let before := service.run calls s
    let r := call.action service before
    before.inTransaction = false ∧ r.session.inTransaction = false ∧
    (∀ e, r.outcome = .error e → e ≠ .transactionOpen ∧ r.session.committed = before.committed) ∧
    ∀ reply, r.outcome = .ok reply → match call.edit? with
      | none => r.session.committed = before.committed
      | some e => ∃ t, before.committed = some t ∧ r.session.committed = some (e.apply t) := by
  intro before r
  have stays : before.inTransaction = false := closed_run closed calls
  have closes := call.closes service stays
  refine ⟨stays, closes.closed, fun e refused => ?_, closes.answered⟩
  obtain ⟨same, reason, -⟩ := closes.refused e refused
  exact ⟨reason, same⟩

/-- The store serves the insertion of a write that finds a row, and fails the overwriting: nothing
is left of the write, and the deletion after it is carried out. -/
theorem calls_all_or_nothing_half_written :
    let ada : UserId := ⟨.oidc, "ada", by decide⟩
    let first : Instant := ⟨7, by decide, by decide⟩
    let second : Instant := ⟨8, by decide, by decide⟩
    let third : Instant := ⟨9, by decide, by decide⟩
    let row : Row := ⟨"oidc~ada", "Ada", none, "create-endpoint", "human", first, none, none⟩
    let program : UpsertRequest := ⟨ada, "Engine", none, .application, .updateEndpoint⟩
    let s : Session := { committed := some [row], outages := [false, true] }
    let write := Call.upsert program second
    let delete := Call.delete ada third
    let r := write.action ⟨{}⟩ s
    let r' := delete.action ⟨{}⟩ r.session
    s.inTransaction = false ∧
    r.outcome = .error (.http .writeFailed) ∧ r.session.committed = some [row] ∧
    r'.outcome = .ok .deleted ∧ r'.session.committed = some [row.erased third] := by
  intro ada first second third row program s write delete r r'
  have failed : r.outcome = .error (.http .writeFailed) := by rfl
  have deleted : r'.outcome = .ok .deleted := by rfl
  obtain ⟨-, -, fails, -⟩ := calls_all_or_nothing ⟨{}⟩ (s := s) rfl [] write
  obtain ⟨-, -, -, answers⟩ := calls_all_or_nothing ⟨{}⟩ (s := s) rfl [write] delete
  have undone : r.session.committed = some [row] := (fails _ failed).2
  obtain ⟨t, stored, after⟩ := answers _ deleted
  obtain rfl : [row] = t := Option.some.inj (undone.symm.trans stored)
  exact ⟨rfl, failed, undone, deleted, after.trans (by decide +kernel)⟩

end Service

end UserDirectory

import UserDirectory.Action

/-!
# What actions do to the table

`x.Yields t outcome t'` says that `x`, run on a session that sees the table `t`, has the outcome and
leaves a session that sees `t'`. Within an open transaction nothing is committed, which is what lets
a failed action be undone as a whole. One rule for each way to make an action follows.
-/
namespace UserDirectory

open Store

/-! ## Sessions that see a table -/

/-- A session of the embedded store, which serves every statement, and the table that it sees. -/
structure Store.Session.Serves (s : Session) (t : Table) : Prop where
  dialect : s.dialect = .sqlite
  outages : s.outages = []
  view : s.view = some t

namespace Store.Session

variable {s : Session} {t : Table}

/-- The session in a transaction that sees another table. -/
def seeing (s : Session) (t : Table) : Session := { s with transaction := some (some t) }

theorem Serves.seeing (h : s.Serves t) (t' : Table) : (s.seeing t').Serves t' :=
  ⟨h.dialect, h.outages, rfl⟩

theorem Serves.opened (h : s.Serves t) : s.opened.Serves t := ⟨h.dialect, h.outages, h.view⟩

theorem Serves.commit (h : s.Serves t) : s.commit.Serves t := ⟨h.dialect, h.outages, h.view⟩

/-- Outside a transaction a session sees what is committed. -/
theorem Serves.committed (h : s.Serves t) (outside : s.inTransaction = false) :
    s.committed = some t := by
  have none : s.transaction = none := by simpa [Session.inTransaction] using outside
  simpa [Session.view, none] using h.view

theorem Serves.execute_ok {α : Type} {stmt : Statement α} {a : α} {t' : Table} (h : s.Serves t)
    (done : stmt t = .ok (a, t')) : s.execute stmt = (.ok a, s.seeing t') := by
  obtain ⟨committed, transaction, dialect, outages⟩ := s
  obtain rfl : outages = [] := h.outages
  simp [execute, h.view, answer, done, Session.seeing]

theorem Serves.execute_error {α : Type} {stmt : Statement α} {r : Refusal} (h : s.Serves t)
    (refused : stmt t = .error r) : s.execute stmt = (.error r, s.seeing t) := by
  obtain ⟨committed, transaction, dialect, outages⟩ := s
  obtain rfl : outages = [] := h.outages
  simp [execute, h.view, answer, refused, Session.seeing]

end Store.Session

/-! ## Actions -/

namespace Action

variable {ε α β : Type} {t t' t'' : Table}

instance : LawfulMonad (Action ε) := by
  refine LawfulMonad.mk' _ ?_ ?_ ?_
  · intro α x
    funext s
    show Action.bind x (fun a => Action.pure a) s = x s
    simp only [Action.bind]
    rcases x s with ⟨outcome, session, events⟩
    cases outcome <;> simp [Action.pure]
  · intro α β a f
    funext s
    rfl
  · intro α β γ x f g
    funext s
    show Action.bind (Action.bind x f) g s = Action.bind x (fun a => Action.bind (f a) g) s
    cases ended : (x s).outcome with
    | error e => simp [Action.bind, ended]
    | ok a =>
      cases next : (f a (x s).session).outcome with
      | ok b => simp [Action.bind, ended, next]
      | error e => simp [Action.bind, ended, next]

/-- The outcome and the table of an action that is run where a table is seen. -/
def Yields (x : Action ε α) (t : Table) (outcome : Except ε α) (t' : Table) : Prop :=
  ∀ s : Session, s.Serves t →
    (x s).outcome = outcome ∧ (x s).session.Serves t' ∧
      (s.inTransaction = true → (x s).session.inTransaction = true ∧
        (x s).session.committed = s.committed)

namespace Yields

variable {x : Action ε α} {f : α → Action ε β}

theorem pure (a : α) (t : Table) : (Pure.pure a : Action ε α).Yields t (.ok a) t :=
  fun _ h => ⟨rfl, h, fun inside => ⟨inside, rfl⟩⟩

theorem fail (e : ε) (t : Table) : (Action.fail e : Action ε α).Yields t (.error e) t :=
  fun _ h => ⟨rfl, h, fun inside => ⟨inside, rfl⟩⟩

theorem note (event : Journal.Event) (t : Table) :
    (Action.note event : Action ε Unit).Yields t (.ok ()) t :=
  fun _ h => ⟨rfl, h, fun inside => ⟨inside, rfl⟩⟩

theorem ofExcept (r : Except ε α) (t : Table) : (Action.ofExcept r).Yields t r t := by
  cases r with
  | ok a => exact pure a t
  | error e => exact fail e t

theorem bind {a : α} {outcome : Except ε β} (hx : x.Yields t (.ok a) t')
    (hf : (f a).Yields t' outcome t'') :
    (x >>= f).Yields t outcome t'' := by
  intro s h
  obtain ⟨xOutcome, xServes, xInside⟩ := hx s h
  obtain ⟨fOutcome, fServes, fInside⟩ := hf _ xServes
  rw [bind_of_ok xOutcome]
  refine ⟨fOutcome, fServes, fun inside => ?_⟩
  obtain ⟨stillInside, sameCommitted⟩ := xInside inside
  obtain ⟨inAfter, committedAfter⟩ := fInside stillInside
  exact ⟨inAfter, committedAfter.trans sameCommitted⟩

theorem bind_error {e : ε} (hx : x.Yields t (.error e) t') : (x >>= f).Yields t (.error e) t' := by
  intro s h
  obtain ⟨xOutcome, xServes, xInside⟩ := hx s h
  rw [bind_of_error xOutcome]
  exact ⟨rfl, xServes, xInside⟩

/-- What follows on an answer is no failure and keeps the table. -/
theorem bind_map {r : Except ε α} {k : α → β} (hx : x.Yields t r t')
    (hf : ∀ a, (f a).Yields t' (.ok (k a)) t') :
    (x >>= f).Yields t (r.map k) t' := by
  cases r with
  | ok a => exact hx.bind (hf a)
  | error e => exact hx.bind_error

/-- A statement that is carried out. -/
theorem execute {failure : Refusal → ε} {stmt : Statement α} {a : α} (done : stmt t = .ok (a, t')) :
    (Action.execute failure stmt).Yields t (.ok a) t' := by
  intro s h
  simp only [Action.execute, h.execute_ok done]
  exact ⟨rfl, h.seeing t', fun _ => ⟨rfl, rfl⟩⟩

/-- A statement that is refused changes nothing. -/
theorem execute_error {failure : Refusal → ε} {stmt : Statement α} {r : Refusal}
    (refused : stmt t = .error r) :
    (Action.execute failure stmt).Yields t (.error (failure r)) t := by
  intro s h
  simp only [Action.execute, h.execute_error refused]
  exact ⟨rfl, h.seeing t, fun _ => ⟨rfl, rfl⟩⟩

/-- Success is kept, in the open transaction or by a commit. -/
theorem inTransaction {a : α} (hx : x.Yields t (.ok a) t') :
    (Action.inTransaction x).Yields t (.ok a) t' := by
  intro s h
  by_cases inside : s.inTransaction = true
  · simpa [Action.inTransaction, inside] using hx s h
  · obtain ⟨outcome, serves, -⟩ := hx s.opened h.opened
    have own : Action.inTransaction x s =
        ⟨.ok a, (x s.opened).session.commit, (x s.opened).events⟩ := by
      rw [Action.inTransaction, if_neg inside, inOwnTransaction, close, outcome]
    rw [own]
    exact ⟨rfl, serves.commit, fun contrary => absurd contrary inside⟩

/-- Failure leaves the table as it was, because a transaction of its own is rolled back. -/
theorem inTransaction_error {e : ε} (hx : x.Yields t (.error e) t) :
    (Action.inTransaction x).Yields t (.error e) t := by
  intro s h
  by_cases inside : s.inTransaction = true
  · simpa [Action.inTransaction, inside] using hx s h
  · obtain ⟨outcome, serves, within⟩ := hx s.opened h.opened
    have before : s.committed = some t := h.committed (by simpa using inside)
    have own : Action.inTransaction x s =
        ⟨.error e, (x s.opened).session.rollback, (x s.opened).events⟩ := by
      rw [Action.inTransaction, if_neg inside, inOwnTransaction, close, outcome]
    rw [own]
    refine ⟨rfl, ⟨serves.dialect, serves.outages, ?_⟩, fun contrary => absurd contrary inside⟩
    rw [Session.view_rollback, (within rfl).2]
    exact before

end Yields

end Action

end UserDirectory

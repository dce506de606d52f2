import UserDirectory.Journal.Event
import UserDirectory.Store.Session

/-!
# Actions on a session

An action takes a session to an outcome, the session after it and the events noted on the way. A
failure keeps the session and the events up to it. Sequence is given by `bind_apply_ok` and
`bind_apply_error`.
-/
namespace UserDirectory

open Store Journal

structure Execution (ε α : Type) where
  outcome : Except ε α
  session : Session
  events : List Event

def Action (ε α : Type) := Session → Execution ε α

namespace Action

variable {ε ε' α β : Type}

def pure (a : α) : Action ε α := fun s => ⟨.ok a, s, []⟩

def fail (e : ε) : Action ε α := fun s => ⟨.error e, s, []⟩

def bind (x : Action ε α) (f : α → Action ε β) : Action ε β := fun s =>
  match (x s).outcome with
  | .ok a => ⟨(f a (x s).session).outcome, (f a (x s).session).session,
      (x s).events ++ (f a (x s).session).events⟩
  | .error e => ⟨.error e, (x s).session, (x s).events⟩

instance : Monad (Action ε) where
  pure := Action.pure
  bind := Action.bind

@[simp] theorem pure_apply (a : α) (s : Session) : (Pure.pure a : Action ε α) s = ⟨.ok a, s, []⟩ :=
  rfl

@[simp] theorem fail_apply (e : ε) (s : Session) : (fail e : Action ε α) s = ⟨.error e, s, []⟩ :=
  rfl

theorem bind_apply_ok {x : Action ε α} {f : α → Action ε β} {s s' : Session} {a : α}
    {events : List Event} (h : x s = ⟨.ok a, s', events⟩) :
    (x >>= f) s = ⟨(f a s').outcome, (f a s').session, events ++ (f a s').events⟩ := by
  show bind x f s = _
  simp [bind, h]

theorem bind_apply_error {x : Action ε α} {f : α → Action ε β} {s s' : Session} {e : ε}
    {events : List Event}
    (h : x s = ⟨.error e, s', events⟩) : (x >>= f) s = ⟨.error e, s', events⟩ := by
  show bind x f s = _
  simp [bind, h]

/-- The same, where the outcome of the first action is known. -/
theorem bind_of_ok {x : Action ε α} {f : α → Action ε β} {s : Session} {a : α}
    (h : (x s).outcome = .ok a) :
    (x >>= f) s = ⟨(f a (x s).session).outcome, (f a (x s).session).session,
      (x s).events ++ (f a (x s).session).events⟩ :=
  bind_apply_ok (by rw [← h])

theorem bind_of_error {x : Action ε α} {f : α → Action ε β} {s : Session} {e : ε}
    (h : (x s).outcome = .error e) :
    (x >>= f) s = ⟨.error e, (x s).session, (x s).events⟩ :=
  bind_apply_error (by rw [← h])

/-- A sequence is answered if both its actions are. -/
theorem bind_eq_ok {x : Action ε α} {f : α → Action ε β} {s : Session} {b : β}
    (h : ((x >>= f) s).outcome = .ok b) :
    ∃ a, (x s).outcome = .ok a ∧ (f a (x s).session).outcome = .ok b := by
  cases ended : (x s).outcome with
  | error e =>
    rw [bind_of_error ended] at h
    cases h
  | ok a =>
    rw [bind_of_ok ended] at h
    exact ⟨a, rfl, h⟩

/-! ## Steps -/

def note (event : Event) : Action ε Unit := fun s => ⟨.ok (), s, [event]⟩

def modify (f : Session → Session) : Action ε Unit := fun s => ⟨.ok (), f s, []⟩

def ofExcept : Except ε α → Action ε α
  | .ok a => Action.pure a
  | .error e => fail e

theorem ofExcept_eq_ok {r : Except ε' α} {failure : ε' → ε} {s : Session} {a : α}
    (h : (ofExcept (r.mapError failure) s).outcome = .ok a) : r = .ok a := by
  cases r with
  | error e => cases h
  | ok a' =>
    cases h
    rfl

/-- Runs a statement; a refusal is a failure. -/
def execute (failure : Refusal → ε) (stmt : Statement α) : Action ε α := fun s =>
  ⟨((s.execute stmt).1).mapError failure, (s.execute stmt).2, []⟩

/-- A statement that is answered was carried out on the table that the session sees. -/
theorem execute_eq_ok {failure : Refusal → ε} {stmt : Statement α} {s : Session} {a : α}
    (h : (execute failure stmt s).outcome = .ok a) :
    ∃ t t', s.view = some t ∧ stmt t = .ok (a, t') ∧ (execute failure stmt s).session =
      { s with outages := s.outages.tail, transaction := some (some t') } := by
  simp only [execute, Session.execute] at h ⊢
  split at h
  · cases h
  · rename_i serves
    rw [if_neg serves]
    cases sees : s.view with
    | none =>
      rw [sees] at h
      cases h
    | some t =>
      cases ran : stmt t with
      | error refusal =>
        simp only [sees, Session.answer, ran] at h
        cases h
      | ok done =>
        simp only [sees, Session.answer, ran] at h
        cases h
        exact ⟨t, done.2, rfl, ran, by simp only [Session.answer, ran]⟩

/-- The outcome of an action as a value. -/
def attempt (x : Action ε α) : Action ε' (Except ε α) :=
  fun s => ⟨.ok (x s).outcome, (x s).session, (x s).events⟩

/-! ## Transactions -/

/-- Closes a transaction: a success is committed, a failure rolled back. -/
def close (r : Execution ε α) : Execution ε α :=
  match r.outcome with
  | .ok _ => { r with session := r.session.commit }
  | .error _ => { r with session := r.session.rollback }

/-- Runs an action in a transaction of its own. -/
def inOwnTransaction (x : Action ε α) : Action ε α := fun s => close (x s.opened)

/-- Runs an action in the open transaction, or in one of its own. -/
def inTransaction (x : Action ε α) : Action ε α := fun s =>
  if s.inTransaction then x s else inOwnTransaction x s

end Action

end UserDirectory

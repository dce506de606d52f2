import UserDirectory.Action

/-!
# Actions in a transaction

`x.Within c safe done failed` says what `x` comes to in an open transaction that sees the contents
`c`, whatever the store does with each statement. The transaction stays open and nothing is
committed. An answer and what is seen with it are as `done` says, and a failure is as `failed` says.
A healthy store that finds it `safe` leads to an answer. One rule for each way to make an action
follows.
-/
namespace UserDirectory

open Store

/-- A store of a known kind that fails no coming statement. -/
structure Store.Session.Healthy (s : Session) : Prop where
  dialect : s.dialect = .sqlite ∨ s.dialect = .postgresql
  outages : s.outages = []

namespace Action

variable {ε α β : Type}

/-- How an execution in an open transaction of a session ends. -/
structure Ends (r : Execution ε α) (s : Session) (safe : Prop) (done : α → Contents → Prop)
    (failed : ε → Prop) :
    Prop where
  inside : r.session.inTransaction = true
  committed : r.session.committed = s.committed
  healthy : s.Healthy → r.session.Healthy
  answered : ∀ a, r.outcome = .ok a → done a r.session.view
  refused : ∀ e, r.outcome = .error e → failed e ∧ (s.Healthy → ¬ safe)

def Within (x : Action ε α) (c : Contents) (safe : Prop) (done : α → Contents → Prop)
    (failed : ε → Prop) : Prop :=
  ∀ s : Session, s.inTransaction = true → s.view = c → Ends (x s) s safe done failed

namespace Within

variable {x : Action ε α} {c : Contents} {safe : Prop} {done : α → Contents → Prop}
  {failed : ε → Prop}

theorem mono {safe' : Prop} {done' : α → Contents → Prop} {failed' : ε → Prop}
    (h : x.Within c safe done failed) (safer : safe' → safe)
    (answer : ∀ a c', done a c' → done' a c') (failure : ∀ e, failed e → failed' e) :
    x.Within c safe' done' failed' := by
  intro s inside sees
  have ends := h s inside sees
  refine ⟨ends.inside, ends.committed, ends.healthy, fun a ok => answer a _ (ends.answered a ok),
    fun e error => ?_⟩
  obtain ⟨reason, notSafe⟩ := ends.refused e error
  exact ⟨failure e reason, fun healthy safe => notSafe healthy (safer safe)⟩

theorem pure {a : α} (answer : done a c) :
    (Pure.pure a : Action ε α).Within c safe done failed := by
  intro s inside sees
  refine ⟨inside, rfl, id, ?_, nofun⟩
  rintro _ ⟨⟩
  exact sees ▸ answer

theorem fail {e : ε} (failure : failed e) (notSafe : ¬ safe) :
    (Action.fail e).Within c safe done failed := by
  intro s inside sees
  refine ⟨inside, rfl, id, nofun, ?_⟩
  rintro _ ⟨⟩
  exact ⟨failure, fun _ => notSafe⟩

theorem bind {f : α → Action ε β} {mid : α → Contents → Prop} {done : β → Contents → Prop}
    (hx : x.Within c safe mid failed) (hf : ∀ a c', mid a c' → (f a).Within c' safe done failed) :
    (x >>= f).Within c safe done failed := by
  intro s inside sees
  have first := hx s inside sees
  cases outcome : (x s).outcome with
  | ok a =>
    have second := hf a _ (first.answered a outcome) (x s).session first.inside rfl
    rw [bind_of_ok outcome]
    refine ⟨second.inside, second.committed.trans first.committed,
      fun h => second.healthy (first.healthy h), second.answered, fun e error => ?_⟩
    obtain ⟨reason, notSafe⟩ := second.refused e error
    exact ⟨reason, fun healthy => notSafe (first.healthy healthy)⟩
  | error e =>
    rw [bind_of_error outcome]
    refine ⟨first.inside, first.committed, first.healthy, nofun, ?_⟩
    rintro _ ⟨⟩
    exact first.refused e outcome

/-- A statement is carried out or refused, or the store fails it. Only a healthy store has to carry
it out. -/
theorem execute {failure : Refusal → ε} {stmt : Statement α}
    (answer : ∀ t a t', c = some t → stmt t = .ok (a, t') → done a (some t'))
    (refusal : ∀ r, failed (failure r))
    (served : safe → ∃ t a t', c = some t ∧ stmt t = .ok (a, t')) :
    (Action.execute failure stmt).Within c safe done failed := by
  intro s inside sees
  have healthy : ∀ c', s.Healthy →
      Session.Healthy { s with outages := s.outages.tail, transaction := some c' } :=
    fun _ h => ⟨h.dialect, by simp [h.outages]⟩
  have fails : ∀ (c' : Contents) (r : Refusal), (s.Healthy → ¬ safe) →
      Ends ⟨.error (failure r), { s with outages := s.outages.tail, transaction := some c' },
        []⟩ s safe done
        failed := by
    intro c' r notSafe
    refine ⟨rfl, rfl, healthy c', ?_, ?_⟩
    · rintro _ ⟨⟩
    · rintro _ ⟨⟩
      exact ⟨refusal r, notSafe⟩
  simp only [Action.execute, Session.execute, sees]
  split
  · rename_i out
    exact fails _ .outage fun h => by simp [h.outages] at out
  · cases c with
    | none =>
      refine fails none .missingTable fun _ isSafe => ?_
      obtain ⟨t, a, t', stored, -⟩ := served isSafe
      cases stored
    | some t =>
      cases result : stmt t with
      | error r =>
        simp only [Session.answer, result]
        refine fails (some t) r fun _ isSafe => ?_
        obtain ⟨t, a, t', ⟨⟩, ok⟩ := served isSafe
        simp [result] at ok
      | ok done =>
        obtain ⟨a, t'⟩ := done
        simp only [Session.answer, result]
        refine ⟨rfl, rfl, healthy _, ?_, ?_⟩
        · rintro _ ⟨⟩
          exact answer t a t' rfl result
        · rintro _ ⟨⟩

/-! ### Steps before a rest -/

section Rest

variable {f : α → Action ε β} {done : β → Contents → Prop}

theorem note_bind {event : Journal.Event} {f : Unit → Action ε β}
    (h : (f ()).Within c safe done failed) :
    (Action.note event >>= f).Within c safe done failed := by
  have noted : (Action.note event : Action ε Unit).Within c safe (fun _ c' => c' = c) failed := by
    intro s inside sees
    exact ⟨inside, rfl, id, fun _ _ => sees, nofun⟩
  refine noted.bind ?_
  rintro - c' rfl
  exact h

theorem ofExcept_bind {ε' : Type} {g : ε' → ε} {r : Except ε' α}
    (answer : ∀ a, r = .ok a → (f a).Within c safe done failed)
    (failure : ∀ e, r = .error e → failed (g e) ∧ ¬ safe) :
    (Action.ofExcept (r.mapError g) >>= f).Within c safe done failed := by
  cases r with
  | ok a =>
    have given : (Action.ofExcept ((.ok a : Except ε' α).mapError g)).Within c safe
        (fun b c' => b = a ∧ c' = c) failed := .pure ⟨rfl, rfl⟩
    refine given.bind ?_
    rintro b c' ⟨rfl, rfl⟩
    exact answer b rfl
  | error e =>
    obtain ⟨reason, notSafe⟩ := failure e rfl
    have failing : (Action.ofExcept ((.error e : Except ε' α).mapError g)).Within c safe
        (fun _ _ => False) failed :=
      .fail reason notSafe
    exact failing.bind fun _ _ => False.elim

/-- A statement is carried out or refused, or the store fails it. Only a healthy store has to carry
it out. -/
theorem execute_bind {failure : Refusal → ε} {stmt : Statement α}
    (answer : ∀ t a t', c = some t → stmt t = .ok (a, t') → (f a).Within (some t') safe done failed)
    (refusal : ∀ r, failed (failure r))
    (served : safe → ∃ t a t', c = some t ∧ stmt t = .ok (a, t')) :
    (Action.execute failure stmt >>= f).Within c safe done failed := by
  have ran : (Action.execute failure stmt).Within c safe
      (fun a c' => ∃ t t', c = some t ∧ stmt t = .ok (a, t') ∧ c' = some t') failed :=
    .execute (fun t a t' stored ok => ⟨t, t', stored, ok, rfl⟩) refusal served
  refine ran.bind ?_
  rintro a c' ⟨t, t', stored, ok, rfl⟩
  exact answer t a t' stored ok

end Rest

/-- An action that joins the open transaction. -/
theorem inTransaction (hx : x.Within c safe done failed) :
    (Action.inTransaction x).Within c safe done failed := by
  intro s inside sees
  rw [Action.inTransaction, if_pos inside]
  exact hx s inside sees

/-- An action that depends on the dialect. Only a known one has to lead to an answer. -/
theorem ofDialect {y z : Action ε α} {u : String → ε}
    (onSqlite : ∀ s, s.dialect = .sqlite → x s = y s)
    (onPostgresql : ∀ s, s.dialect = .postgresql → x s = z s)
    (onOther : ∀ s name, s.dialect = .other name → x s = Action.fail (u name) s)
    (hy : y.Within c safe done failed) (hz : z.Within c safe done failed)
    (failure : ∀ name, failed (u name)) :
    x.Within c safe done failed := by
  intro s inside sees
  cases dialect : s.dialect with
  | sqlite => exact onSqlite s dialect ▸ hy s inside sees
  | postgresql => exact onPostgresql s dialect ▸ hz s inside sees
  | other name =>
    rw [onOther s name dialect]
    refine ⟨inside, rfl, id, nofun, ?_⟩
    rintro _ ⟨⟩
    refine ⟨failure name, ?_⟩
    rintro ⟨known, -⟩
    simp [dialect] at known

end Within

end Action

end UserDirectory

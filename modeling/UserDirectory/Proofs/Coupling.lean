import UserDirectory.Action

/-!
# Two actions side by side

`Coupled R P x x'` says that from sessions related by `R` the actions `x` and `x'` both answer, with
answers related by `P`, or both fail for one reason, and that the sessions after them are related
again. One rule for each way to make an action follows. An action that only reads what it was given
is coupled with itself, whatever the sessions.
-/
namespace UserDirectory.Action

open Store

variable {ε ε' α α' β β' : Type}

/-- Two answers that are related, or one failure. -/
inductive Matched (P : α → α' → Prop) : Except ε α → Except ε α' → Prop
  | ok {a : α} {a' : α'} (related : P a a') : Matched P (.ok a) (.ok a')
  | error (e : ε) : Matched P (.error e) (.error e)

namespace Matched

variable {P : α → α' → Prop}

theorem mono {Q : α → α' → Prop} {r : Except ε α} {r' : Except ε α'} (h : Matched P r r')
    (weaker : ∀ a a', P a a' → Q a a') : Matched Q r r' := by
  cases h with
  | ok related => exact .ok (weaker _ _ related)
  | error e => exact .error e

theorem mapError {r : Except ε α} {r' : Except ε α'} (h : Matched P r r') (f : ε → ε') :
    Matched P (r.mapError f) (r'.mapError f) := by
  cases h with
  | ok related => exact .ok related
  | error e => exact .error (f e)

theorem refl (r : Except ε α) : Matched Eq r r := by
  cases r with
  | ok a => exact .ok rfl
  | error e => exact .error e

theorem eq {r r' : Except ε α} (h : Matched Eq r r') : r = r' := by
  cases h with
  | ok same => rw [same]
  | error e => rfl

end Matched

/-! ## Actions that only read what they were given -/

/-- The session stays as it is and has no part in the outcome. -/
def Still (x : Action ε α) : Prop := ∃ r, ∀ s, (x s).outcome = r ∧ (x s).session = s

namespace Still

theorem pure (a : α) : (Pure.pure a : Action ε α).Still := ⟨.ok a, fun _ => ⟨rfl, rfl⟩⟩

theorem fail (e : ε) : (Action.fail e : Action ε α).Still := ⟨.error e, fun _ => ⟨rfl, rfl⟩⟩

theorem note (event : Journal.Event) : (Action.note event : Action ε Unit).Still :=
  ⟨.ok (), fun _ => ⟨rfl, rfl⟩⟩

theorem ofExcept (r : Except ε α) : (Action.ofExcept r).Still := by
  cases r with
  | ok a => exact pure a
  | error e => exact fail e

theorem bind {x : Action ε α} {f : α → Action ε β} (hx : x.Still) (hf : ∀ a, (f a).Still) :
    (x >>= f).Still := by
  obtain ⟨r, reads⟩ := hx
  cases r with
  | error e =>
    refine ⟨.error e, fun s => ?_⟩
    rw [bind_of_error (reads s).1]
    exact ⟨rfl, (reads s).2⟩
  | ok a =>
    obtain ⟨r', reads'⟩ := hf a
    refine ⟨r', fun s => ?_⟩
    rw [bind_of_ok (reads s).1, (reads s).2]
    exact reads' s

end Still

/-! ## Coupled actions -/

def Coupled (R : Session → Session → Prop) (P : α → α' → Prop) (x : Action ε α) (x' : Action ε α') :
    Prop :=
  ∀ s s', R s s' → Matched P (x s).outcome (x' s').outcome ∧ R (x s).session (x' s').session

namespace Coupled

variable {R : Session → Session → Prop} {P : α → α' → Prop} {Q : β → β' → Prop} {x : Action ε α}
  {x' : Action ε α'}

theorem mono {Q : α → α' → Prop} (h : Coupled R P x x') (weaker : ∀ a a', P a a' → Q a a') :
    Coupled R Q x x' := by
  intro s s' related
  obtain ⟨outcomes, sessions⟩ := h s s' related
  exact ⟨outcomes.mono weaker, sessions⟩

/-- An action that is coupled with itself is so from one session too. -/
theorem or_eq {x : Action ε α} (h : Coupled R Eq x x) :
    Coupled (fun s s' => s = s' ∨ R s s') Eq x x := by
  rintro s s' (rfl | related)
  · exact ⟨.refl _, .inl rfl⟩
  · obtain ⟨outcomes, sessions⟩ := h s s' related
    exact ⟨outcomes, .inr sessions⟩

theorem pure {a : α} {a' : α'} (related : P a a') :
    Coupled R P (Pure.pure a : Action ε α) (Pure.pure a' : Action ε α') :=
  fun _ _ h => ⟨.ok related, h⟩

theorem fail (e : ε) : Coupled R P (Action.fail e) (Action.fail e) := fun _ _ h => ⟨.error e, h⟩

theorem of_still {x : Action ε α} (still : x.Still) : Coupled R Eq x x := by
  intro s s' h
  obtain ⟨r, reads⟩ := still
  rw [(reads s).1, (reads s').1, (reads s).2, (reads s').2]
  exact ⟨.refl r, h⟩

theorem bind {f : α → Action ε β} {f' : α' → Action ε β'} (hx : Coupled R P x x')
    (hf : ∀ a a', P a a' → Coupled R Q (f a) (f' a')) : Coupled R Q (x >>= f) (x' >>= f') := by
  intro s s' h
  obtain ⟨outcomes, sessions⟩ := hx s s' h
  generalize ended : (x s).outcome = r at outcomes
  generalize ended' : (x' s').outcome = r' at outcomes
  cases outcomes with
  | ok related =>
    rw [bind_of_ok ended, bind_of_ok ended']
    exact hf _ _ related _ _ sessions
  | error e =>
    rw [bind_of_error ended, bind_of_error ended']
    exact ⟨.error e, sessions⟩

/-- The session after an action and a rest that only reads is that after the action. -/
theorem session_bind {f : α → Action ε β} (still : ∀ a, (f a).Still) (s : Session) :
    ((x >>= f) s).session = (x s).session := by
  cases ended : (x s).outcome with
  | ok a =>
    obtain ⟨r, reads⟩ := still a
    rw [bind_of_ok ended]
    exact (reads _).2
  | error e => rw [bind_of_error ended]

theorem execute {failure : Refusal → ε} {stmt : Statement α} {stmt' : Statement α'}
    (h : ∀ s s', R s s' → Matched P (s.execute stmt).1 (s'.execute stmt').1 ∧
      R (s.execute stmt).2 (s'.execute stmt').2) :
    Coupled R P (Action.execute failure stmt) (Action.execute failure stmt') := by
  intro s s' related
  obtain ⟨answers, sessions⟩ := h s s' related
  exact ⟨answers.mapError failure, sessions⟩

/-- Both actions join the transactions that are open. -/
theorem inTransaction_inside
    (inside : ∀ s s', R s s' → s.inTransaction = true ∧ s'.inTransaction = true)
    (h : Coupled R P x x') : Coupled R P (Action.inTransaction x) (Action.inTransaction x') := by
  intro s s' related
  obtain ⟨open_, open_'⟩ := inside s s' related
  rw [Action.inTransaction, Action.inTransaction, if_pos open_, if_pos open_']
  exact h s s' related

/-- A relation of sessions that are in a transaction together, and stay related where one is opened
or closed. -/
structure Bracketed (R : Session → Session → Prop) : Prop where
  inTransaction : ∀ {s s'}, R s s' → s.inTransaction = s'.inTransaction
  opened : ∀ {s s'}, R s s' → R s.opened s'.opened
  commit : ∀ {s s'}, R s s' → R s.commit s'.commit
  rollback : ∀ {s s'}, R s s' → R s.rollback s'.rollback

/-- Both actions join the open transactions or have transactions of their own, which end in the same
way. -/
theorem inTransaction (bracketed : Bracketed R) (h : Coupled R P x x') :
    Coupled R P (Action.inTransaction x) (Action.inTransaction x') := by
  intro s s' related
  have together := bracketed.inTransaction related
  by_cases inside : s.inTransaction = true
  · rw [Action.inTransaction, Action.inTransaction, if_pos inside, if_pos (together ▸ inside)]
    exact h s s' related
  · rw [Action.inTransaction, Action.inTransaction, if_neg inside, if_neg (together ▸ inside)]
    obtain ⟨outcomes, sessions⟩ := h _ _ (bracketed.opened related)
    simp only [inOwnTransaction, close]
    generalize x s.opened = r at outcomes sessions
    generalize x' s'.opened = r' at outcomes sessions
    obtain ⟨outcome, session, events⟩ := r
    obtain ⟨outcome', session', events'⟩ := r'
    cases outcomes with
    | ok answers => exact ⟨.ok answers, bracketed.commit sessions⟩
    | error e => exact ⟨.error e, bracketed.rollback sessions⟩

end Coupled

end UserDirectory.Action

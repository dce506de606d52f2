import UserDirectory.Directory.Search
import UserDirectory.Proofs.Coupling
import UserDirectory.Proofs.Directory.Edit

/-!
# Runs of operations and their answers

Writes, erasures, lists, searches and commits run one after the other on a session. Two runs from
related sessions answer alike if each operation does and leaves related sessions. What an operation
reads from rows has no part in the session, so this comes down to its statements.
-/
namespace UserDirectory.Directory

open Store Paging Time UserDirectory.Action

/-! ## Operations -/

inductive Operation
  | edit (e : Edit)
  | list (policy : Policy) (q : ListQuery)
  | search (term : String)
  | commit

inductive Answer
  | written (outcome : Except Error Outcome)
  | erased (found : Except Error Bool)
  | listed (page : Except Error Page)
  | found (users : Except Error (List FoundUser))
  | committed
deriving DecidableEq

/-- The answer of an operation, and the session after it. -/
def Operation.run : Operation → Session → Answer × Session
  | .edit (.write w now), s => (.written (write w now s).outcome, (write w now s).session)
  | .edit (.erase id now), s => (.erased (erase id now s).outcome, (erase id now s).session)
  | .list policy q, s =>
    (.listed (Directory.list policy q s).outcome, (Directory.list policy q s).session)
  | .search term, s => (.found (Directory.search term s).outcome, (Directory.search term s).session)
  | .commit, s => (.committed, s.commit)

/-- The answers of some operations in their order, and the session after them. -/
def transcript : List Operation → Session → List Answer × Session
  | [], s => ([], s)
  | o :: os, s => ((o.run s).1 :: (transcript os (o.run s).2).1, (transcript os (o.run s).2).2)

/-! ## What is read from rows -/

theorem readId_still (stored : String) : (readId stored).Still := by
  unfold readId
  split
  · exact .pure _
  · exact .bind (.note _) fun _ => .fail _

theorem forEach_still {α β : Type} {f : α → Action Error β} (h : ∀ a, (f a).Still) (l : List α) :
    (forEach f l).Still := by
  induction l with
  | nil => exact .pure _
  | cons a l ih => exact .bind (h a) fun _ => .bind ih fun _ => .pure _

theorem toUser_still (r : LabelledRow) : (toUser r).Still := .bind (readId_still _) fun _ => .pure _

theorem readUsers_still (rows : List Row) : (readUsers rows).Still :=
  .bind (.ofExcept _) fun _ => forEach_still toUser_still _

theorem readFoundUsers_still (rows : List Row) : (readFoundUsers rows).Still :=
  .bind (.ofExcept _) fun _ => forEach_still (fun _ => .bind (readId_still _) fun _ => .pure _) _

/-- What a list does with the rows of its statement. -/
theorem listed_still {limit : Int} (rows : List Row) :
    (do
      let users ← readUsers rows
      Action.note (.listed users.length limit)
      return (⟨users, users.getLast?.map fun u => (User.cursor u).token⟩ : Page) :
      Action Error Page).Still :=
  .bind (readUsers_still rows) fun _ => .bind (.note _) fun _ => .pure _

theorem readOutcome_still (created : Bool) (row : Row) : (readOutcome created row).Still :=
  .bind (.bind (.ofExcept _) toUser_still) fun _ => .bind (.note _) fun _ => .pure _

/-! ## Operations on related sessions -/

section Coupled

variable {R : Session → Session → Prop}

/-- Lists are coupled with themselves if their statements are. -/
theorem list_coupled
    (read : ∀ q, Coupled R Eq (Action.execute listFailure (page q))
      (Action.execute listFailure (page q)))
    (policy : Policy) (q : ListQuery) : Coupled R Eq (list policy q) (list policy q) := by
  refine .bind (.of_still (.ofExcept _)) ?_
  rintro after _ rfl
  refine .bind (read _) ?_
  rintro rows _ rfl
  exact .of_still (listed_still rows)

theorem erase_coupled {id : UserId} {now : Instant}
    (erased : Coupled R Eq (Action.execute (fun _ => Error.store .erase) (Store.erase id.text now))
      (Action.execute (fun _ => Error.store .erase) (Store.erase id.text now))) :
    Coupled R Eq (erase id now) (erase id now) := by
  refine .bind erased ?_
  rintro count _ rfl
  exact .of_still (.bind (.note _) fun _ => .pure _)

/-- What a search does where it is known how the server speaks, which comes to one statement. -/
def found (term : String) : Action Error (List FoundUser) :=
  Action.execute searchFailure (nearest term) >>= readFoundUsers

theorem search_of_other {s : Session} {name : String} (other : s.dialect = .other name)
    (term : String) :
    search term s = Action.fail (.unsupportedDialect name) s := by
  simp only [search, searchVia, other]

theorem search_of_known {s : Session} (known : ∀ name, s.dialect ≠ .other name) (term : String) :
    search term s = found term s := by
  cases speaks : s.dialect with
  | other name => exact absurd speaks (known name)
  | sqlite =>
    simp only [search, searchVia, speaks]
    rfl
  | postgresql =>
    simp only [search, searchVia, speaks]
    rfl

theorem found_coupled {term : String}
    (read : Coupled R Eq (Action.execute searchFailure (nearest term))
      (Action.execute searchFailure (nearest term))) :
    Coupled R Eq (found term) (found term) := by
  refine .bind read ?_
  rintro rows _ rfl
  exact .of_still (readFoundUsers_still rows)

/-- What is stored and its row. -/
def SameWrite (P : Row → Row → Prop) (r r' : Bool × Row) : Prop := r.1 = r'.1 ∧ P r.2 r'.2

/-- Insertions or overwritings are coupled if their two statements are. -/
theorem insertOrOverwrite_coupled {P : Row → Row → Prop} {w w' : Write} {now : Instant}
    (joined : ∀ {x x' : Action Error (Bool × Row)}, Coupled R (SameWrite P) x x' →
      Coupled R (SameWrite P) (Action.inTransaction x) (Action.inTransaction x'))
    (inserted : Coupled R (Option.Rel P)
      (Action.execute writeFailure (insertNew w.id.text w.change now))
      (Action.execute writeFailure (insertNew w'.id.text w'.change now)))
    (overwritten : Coupled R (List.Forall₂ P)
      (Action.execute writeFailure (overwrite w.id.text w.change now))
      (Action.execute writeFailure (overwrite w'.id.text w'.change now))) :
    Coupled R (SameWrite P) (insertOrOverwrite w now) (insertOrOverwrite w' now) := by
  refine joined (.bind inserted ?_)
  rintro _ _ (same | _)
  · exact .pure ⟨rfl, same⟩
  · refine .bind overwritten ?_
    rintro _ _ (_ | ⟨first, _ | ⟨second, rest⟩⟩)
    · exact .fail _
    · exact .pure ⟨rfl, first⟩
    · exact .fail _

end Coupled

/-! ## Runs on related sessions -/

/-- What makes related sessions answer alike: they speak a known dialect or an unknown one together,
a write has one outcome, and so has each other statement. -/
structure Indistinct (R : Session → Session → Prop) : Prop where
  speaks : ∀ {s s'}, R s s' → ∀ name, s.dialect = .other name ↔ s'.dialect = .other name
  write : ∀ w now, Coupled R Eq (write w now) (write w now)
  erase : ∀ (id : UserId) now, Coupled R Eq
    (Action.execute (fun _ => Error.store .erase) (Store.erase id.text now))
    (Action.execute (fun _ => Error.store .erase) (Store.erase id.text now))
  page : ∀ q, Coupled R Eq (Action.execute listFailure (page q))
    (Action.execute listFailure (page q))
  nearest : ∀ term, Coupled R Eq (Action.execute searchFailure (nearest term))
    (Action.execute searchFailure (nearest term))
  commit : ∀ {s s'}, R s s' → R s.commit s'.commit

namespace Indistinct

variable {R : Session → Session → Prop} {s s' : Session}

theorem search_eq (h : Indistinct R) (term : String) (related : R s s') :
    (search term s).outcome = (search term s').outcome ∧
      R (search term s).session (search term s').session := by
  by_cases unknown : ∃ name, s.dialect = .other name
  · obtain ⟨name, other⟩ := unknown
    rw [search_of_other other, search_of_other ((h.speaks related name).1 other)]
    exact ⟨rfl, related⟩
  · have known : ∀ name, s.dialect ≠ .other name := not_exists.1 unknown
    have known' : ∀ name, s'.dialect ≠ .other name :=
      fun name => mt (h.speaks related name).2 (known name)
    rw [search_of_known known, search_of_known known']
    obtain ⟨outcomes, sessions⟩ := found_coupled (h.nearest term) s s' related
    exact ⟨outcomes.eq, sessions⟩

/-- Each operation answers alike and leaves related sessions. -/
theorem run_eq (h : Indistinct R) (o : Operation) (related : R s s') :
    (o.run s).1 = (o.run s').1 ∧ R (o.run s).2 (o.run s').2 := by
  have answers : ∀ {α : Type} {x : Action Error α} (f : Except Error α → Answer), Coupled R Eq x x →
      f (x s).outcome = f (x s').outcome ∧ R (x s).session (x s').session := by
    intro α x f coupled
    obtain ⟨outcomes, sessions⟩ := coupled s s' related
    exact ⟨congrArg f outcomes.eq, sessions⟩
  match o with
  | .edit (.write w now) => exact answers .written (h.write w now)
  | .edit (.erase id now) => exact answers .erased (erase_coupled (h.erase id now))
  | .list policy q => exact answers .listed (list_coupled h.page policy q)
  | .search term =>
    obtain ⟨same, sessions⟩ := h.search_eq term related
    exact ⟨congrArg Answer.found same, sessions⟩
  | .commit => exact ⟨rfl, h.commit related⟩

/-- So do runs of any length. -/
theorem transcript_eq (h : Indistinct R) (os : List Operation) (related : R s s') :
    (transcript os s).1 = (transcript os s').1 ∧ R (transcript os s).2 (transcript os s').2 := by
  induction os generalizing s s' with
  | nil => exact ⟨rfl, related⟩
  | cons o os ih =>
    obtain ⟨same, next⟩ := h.run_eq o related
    obtain ⟨later, last⟩ := ih next
    exact ⟨congrArg₂ List.cons same later, last⟩

end Indistinct

end UserDirectory.Directory

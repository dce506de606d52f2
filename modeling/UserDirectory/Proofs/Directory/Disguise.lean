import UserDirectory.Proofs.Directory.Rowwise
import UserDirectory.Proofs.Directory.Transcript
import UserDirectory.Proofs.Search.Join

/-!
# Rows that a search sees alike

Names and addresses that are spelled in another way, though with the same trigrams, do not change
what a search finds: it finds the same users in the same order, as they are spelled in the table, or
it fails for the same reason.
-/
namespace UserDirectory

open Store

namespace Directory

open Search

theorem forEach_map {α β : Type} {x : α → Action Error β} {k : α → α} {k' : β → β}
    (each : ∀ a, x (k a) = k' <$> x a) (l : List α) :
    forEach x (l.map k) = List.map k' <$> forEach x l := by
  induction l with
  | nil => rfl
  | cons a l ih => simp [forEach, each, ih]

/-! ## Another spelling -/

/-- Rows and users in another spelling: a row keeps its id, its type and its trigrams, and a user is
spelled as the row that it is read from. -/
structure Disguise (f : Row → Row) (g : FoundUser → FoundUser) : Prop where
  id : ∀ row, (f row).id = row.id
  userType : ∀ row, (f row).userType = row.userType
  trigrams : ∀ row, trigrams (f row).haystack = trigrams row.haystack
  found : ∀ row id t, g ⟨id, row.name, row.email, t⟩ = ⟨id, (f row).name, (f row).email, t⟩

namespace Disguise

variable {f : Row → Row} {g : FoundUser → FoundUser} {term term' : String}

/-! ## Rows -/

theorem closer (h : Disguise f g)
    (same : Search.trigrams term = Search.trigrams term') (a b : Row) :
    (f a).closer term' (f b) = a.closer term b := by
  simp only [Row.closer, nearer, similarity_congr (h.trigrams _) same.symm, h.id]

/-- The best rows are the same ones. -/
theorem best (h : Disguise f g) (same : Search.trigrams term = Search.trigrams term') (t : Table) :
    (t.best term).map f = Table.best term' (t.map f) := by
  rw [Table.best, Table.best, Table.ranked, Table.ranked, List.map_take]
  congr 1
  exact List.map_mergeSort fun a _ b _ => (h.closer same a b).symm

/-! ## Users -/

theorem ofRow (h : Disguise f g) (row : Row) :
    TypedRow.ofRow (f row) = (fun r : TypedRow => { r with row := f r.row }) <$>
      TypedRow.ofRow row := by
  show (readUserType (f row).userType).map _ = ((readUserType row.userType).map _).map _
  rw [h.userType]
  cases readUserType row.userType <;> rfl

theorem mapM_ofRow (h : Disguise f g) (rows : List Row) : (rows.map f).mapM TypedRow.ofRow =
    List.map (fun r : TypedRow => { r with row := f r.row }) <$> rows.mapM TypedRow.ofRow := by
  induction rows with
  | nil => rfl
  | cons row rows ih => simp [h.ofRow, ih]

theorem toFoundUser (h : Disguise f g) (r : TypedRow) :
    toFoundUser { r with row := f r.row } = g <$> Directory.toFoundUser r := by
  simp [Directory.toFoundUser, h.id, h.found]

theorem readFoundUsers (h : Disguise f g) (rows : List Row) :
    readFoundUsers (rows.map f) = List.map g <$> Directory.readFoundUsers rows := by
  rw [Directory.readFoundUsers, Directory.readFoundUsers, h.mapM_ofRow, map_bind]
  cases rows.mapM TypedRow.ofRow with
  | error e => rfl
  | ok typed => exact forEach_map h.toFoundUser typed

/-! ## Searches -/

/-- The same session but for the spelling of its rows. -/
structure Sessions (f : Row → Row) (s s' : Session) : Prop where
  dialect : s'.dialect = s.dialect
  outages : s'.outages = s.outages
  view : s'.view = s.view.map (List.map f)

variable {s s' : Session}

theorem execute_nearest (h : Disguise f g) (same : Search.trigrams term = Search.trigrams term')
    (sessions : Sessions f s s') :
    (s'.execute (nearest term')).1 = (s.execute (nearest term)).1.map (List.map f) := by
  simp only [Session.execute, sessions.outages, sessions.view]
  split
  · rfl
  · cases s.view with
    | none => rfl
    | some t =>
      simp only [Option.map_some, Session.answer, nearest_eq, ← h.best same]
      rfl

theorem outcome_readFoundUsers (h : Disguise f g) (rows : List Row) (s s' : Session) :
    (Directory.readFoundUsers (rows.map f) s').outcome =
      (Directory.readFoundUsers rows s).outcome.map (List.map g) := by
  obtain ⟨r, reads⟩ := readFoundUsers_still rows
  rw [h.readFoundUsers, map_eq_pure_bind, Action.outcome_bind_pure, (reads s).1, (reads s').1]

/-- Terms with the same trigrams find the same users in both spellings of a table, or the searches
fail alike. -/
theorem search (h : Disguise f g) (same : Search.trigrams term = Search.trigrams term')
    (sessions : Sessions f s s') :
    (search term' s').outcome = (Directory.search term s).outcome.map (List.map g) := by
  by_cases unknown : ∃ name, s.dialect = .other name
  · obtain ⟨name, other⟩ := unknown
    rw [search_of_other other, search_of_other (sessions.dialect.trans other)]
    rfl
  · have known : ∀ name, s.dialect ≠ .other name := not_exists.1 unknown
    rw [search_of_known known, search_of_known (sessions.dialect ▸ known), Directory.found,
      Directory.found]
    have answers : (Action.execute searchFailure (nearest term') s').outcome =
        (Action.execute searchFailure (nearest term) s).outcome.map (List.map f) := by
      simp only [Action.execute, h.execute_nearest same sessions]
      cases (s.execute (nearest term)).1 <;> rfl
    cases answered : (Action.execute searchFailure (nearest term) s).outcome with
    | error e =>
      rw [answered] at answers
      rw [Action.bind_of_error answered, Action.bind_of_error answers]
      rfl
    | ok rows =>
      rw [answered] at answers
      rw [Action.bind_of_ok answered, Action.bind_of_ok answers]
      exact h.outcome_readFoundUsers rows _ _

end Disguise

end Directory

end UserDirectory

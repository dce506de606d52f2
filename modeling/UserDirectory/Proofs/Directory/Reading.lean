import UserDirectory.Directory.Mapping
import UserDirectory.Directory.List
import UserDirectory.Proofs.Action
import UserDirectory.Proofs.Identity.UserId
import UserDirectory.Proofs.Store.Order

/-!
# Users in rows

A user is stored in a row by the texts of the id and the labels. Reading such rows gives the users
back, in order and without a change to the table.
-/
namespace UserDirectory

open Store Paging Time

theorem UserType.label_eq_of_ofLabel? {s : String} {t : UserType} (h : ofLabel? s = some t) :
    t.label = s := by
  unfold ofLabel? at h
  split at h
  · cases h
    simp [label, *]
  · split at h
    · cases h
      simp [label, *]
    · cases h

theorem EntryPoint.label_eq_of_ofLabel? {s : String} {e : EntryPoint} (h : ofLabel? s = some e) :
    e.label = s := by
  unfold ofLabel? at h
  split at h
  · cases h
    simp [label, *]
  · split at h
    · cases h
      simp [label, *]
    · split at h
      · cases h
        simp [label, *]
      · cases h

namespace Directory

/-! ## The row of a user -/

/-- The row that a user is stored in. -/
def User.row (u : User) (deletedAt : Option Instant) : Row where
  id := u.id.text
  name := u.name
  email := u.email
  lastUpdatedWith := u.lastUpdatedWith.label
  userType := u.userType.label
  createdAt := u.createdAt
  updatedAt := u.updatedAt
  deletedAt := deletedAt

@[simp] theorem User.cursor_row (u : User) (deletedAt : Option Instant) :
    (User.row u deletedAt).cursor = User.cursor u := rfl

@[simp] theorem User.id_row (u : User) (deletedAt : Option Instant) :
    (User.row u deletedAt).id = u.id.text := rfl

/-- A row whose id parses and whose labels are known is the row of a user. -/
theorem exists_user {row : Row} {id : UserId} {entryPoint : EntryPoint} {userType : UserType}
    (parsed : UserId.parse row.id = .ok id)
    (entered : EntryPoint.ofLabel? row.lastUpdatedWith = some entryPoint)
    (typed : UserType.ofLabel? row.userType = some userType) :
    ∃ u : User, row = User.row u row.deletedAt := by
  refine ⟨⟨id, row.name, row.email, userType, entryPoint, row.createdAt, row.updatedAt⟩, ?_⟩
  simp only [User.row, UserId.text_eq_of_parse parsed, EntryPoint.label_eq_of_ofLabel? entered,
    UserType.label_eq_of_ofLabel? typed]

theorem User.row_injective {u v : User} {d d' : Option Instant} (h : User.row u d = User.row v d') :
    u = v := by
  obtain ⟨id, name, email, userType, entryPoint, createdAt, updatedAt⟩ := u
  obtain ⟨id', name', email', userType', entryPoint', createdAt', updatedAt'⟩ := v
  simp only [User.row, Row.mk.injEq] at h
  obtain ⟨ids, rfl, rfl, entryPoints, userTypes, rfl, rfl, -⟩ := h
  obtain rfl : id = id' := UserId.text_injective ids
  obtain rfl : entryPoint = entryPoint' :=
    Option.some.inj (by rw [← EntryPoint.ofLabel?_label, entryPoints, EntryPoint.ofLabel?_label])
  obtain rfl : userType = userType' :=
    Option.some.inj (by rw [← UserType.ofLabel?_label, userTypes, UserType.ofLabel?_label])
  rfl

/-! ## Reading rows -/

theorem labelled_row (u : User) (deletedAt : Option Instant) :
    LabelledRow.ofRow (User.row u deletedAt) =
      .ok ⟨User.row u deletedAt, u.userType, u.lastUpdatedWith⟩ := by
  simp [LabelledRow.ofRow, readEntryPoint, readUserType, User.row]
  rfl

/-- Labels that are read are known. -/
theorem ofRow_eq_ok {row : Row} {r : LabelledRow} (h : LabelledRow.ofRow row = .ok r) :
    r.row = row ∧ UserType.ofLabel? row.userType = some r.userType ∧
      EntryPoint.ofLabel? row.lastUpdatedWith = some r.lastUpdatedWith := by
  unfold LabelledRow.ofRow readEntryPoint readUserType at h
  cases entered : EntryPoint.ofLabel? row.lastUpdatedWith with
  | none =>
    rw [entered] at h
    cases h
  | some entryPoint =>
    cases typed : UserType.ofLabel? row.userType with
    | none =>
      rw [entered, typed] at h
      cases h
    | some userType =>
      rw [entered, typed] at h
      cases h
      exact ⟨rfl, rfl, rfl⟩

theorem toUser_yields (u : User) (deletedAt : Option Instant) (t : Table) :
    (toUser ⟨User.row u deletedAt, u.userType, u.lastUpdatedWith⟩).Yields t (.ok u) t := by
  have read : (readId u.id.text).Yields t (.ok u.id) t := by
    simp only [readId, UserId.parse_text]
    exact .pure u.id t
  exact .bind read (.pure u t)

/-- The row of a user with its labels read. -/
def User.labelled (u : User) : LabelledRow := ⟨User.row u none, u.userType, u.lastUpdatedWith⟩

theorem mapM_labelled (users : List User) :
    (users.map (User.row · none)).mapM LabelledRow.ofRow = .ok (users.map User.labelled) := by
  induction users with
  | nil => rfl
  | cons u users ih =>
    rw [List.map_cons, List.mapM_cons, labelled_row, ih]
    rfl

theorem forEach_yields {α β : Type} {f : α → Action Error β} {g : β → α} {t : Table}
    (h : ∀ b, (f (g b)).Yields t (.ok b) t) (bs : List β) :
    (forEach f (bs.map g)).Yields t (.ok bs) t := by
  induction bs with
  | nil => exact .pure [] t
  | cons b bs ih => exact .bind (h b) (.bind ih (.pure (b :: bs) t))

theorem readUsers_yields (users : List User) (t : Table) :
    (readUsers (users.map (User.row · none))).Yields t (.ok users) t := by
  unfold readUsers
  rw [mapM_labelled]
  exact .bind (.ofExcept (.ok _) t) (forEach_yields (fun u => toUser_yields u none t) users)

/-! ## Tables of users -/

/-- The ids of the rows are distinct, and every row is the row of a user. -/
structure WellFormed (t : Table) : Prop where
  distinctIds : t.DistinctIds
  users : ∀ row ∈ t, ∃ u : User, row = User.row u row.deletedAt

theorem WellFormed.nil : WellFormed [] := ⟨List.nodup_nil, by simp⟩

/-- Rows of users that are not deleted are the rows of a list of users. -/
theorem exists_users {rows : List Row} (h : ∀ row ∈ rows, ∃ u : User, row = User.row u none) :
    ∃ users : List User, rows = users.map (User.row · none) := by
  induction rows with
  | nil => exact ⟨[], rfl⟩
  | cons row rows ih =>
    obtain ⟨u, rfl⟩ := h row List.mem_cons_self
    obtain ⟨users, rfl⟩ := ih fun row hrow => h row (List.mem_cons_of_mem _ hrow)
    exact ⟨u :: users, rfl⟩

end Directory

end UserDirectory

import UserDirectory.Action

/-!
# Rows as users

The labels of all rows are read before any id is. The first label that is not known fails the whole
reading, and so does the first id that does not parse, which is noted.
-/
namespace UserDirectory.Directory

open Store Journal

/-! ## Labels -/

def readUserType (stored : String) : Except LabelError UserType :=
  match UserType.ofLabel? stored with
  | some t => .ok t
  | none => .error (.userType stored)

def readEntryPoint (stored : String) : Except LabelError EntryPoint :=
  match EntryPoint.ofLabel? stored with
  | some e => .ok e
  | none => .error (.entryPoint stored)

/-- A row with its labels read. -/
structure LabelledRow where
  row : Row
  userType : UserType
  lastUpdatedWith : EntryPoint

def LabelledRow.ofRow (row : Row) : Except LabelError LabelledRow := do
  let lastUpdatedWith ← readEntryPoint row.lastUpdatedWith
  let userType ← readUserType row.userType
  return ⟨row, userType, lastUpdatedWith⟩

/-- A row whose type has been read, for a search. -/
structure TypedRow where
  row : Row
  userType : UserType

def TypedRow.ofRow (row : Row) : Except LabelError TypedRow :=
  (readUserType row.userType).map fun t => ⟨row, t⟩

/-! ## Ids -/

/-- Reads a stored id, and notes one that does not parse. -/
def readId (stored : String) : Action Error UserId :=
  match UserId.parse stored with
  | .ok id => Action.pure id
  | .error e => do
    Action.note (.unreadableId stored e)
    Action.fail (.storedId stored e)

def toUser (r : LabelledRow) : Action Error User := do
  let id ← readId r.row.id
  return ⟨id, r.row.name, r.row.email, r.userType, r.lastUpdatedWith, r.row.createdAt,
    r.row.updatedAt⟩

def toFoundUser (r : TypedRow) : Action Error FoundUser := do
  let id ← readId r.row.id
  return ⟨id, r.row.name, r.row.email, r.userType⟩

/-- Maps the members of a list in order, up to the first failure. -/
def forEach {α β : Type} (f : α → Action Error β) : List α → Action Error (List β)
  | [] => Action.pure []
  | a :: rest => do
    let b ← f a
    let bs ← forEach f rest
    return b :: bs

/-! ## Lists of rows -/

def readUsers (rows : List Row) : Action Error (List User) := do
  let labelled ← Action.ofExcept ((rows.mapM LabelledRow.ofRow).mapError .storedLabel)
  forEach toUser labelled

def readFoundUsers (rows : List Row) : Action Error (List FoundUser) := do
  let typed ← Action.ofExcept ((rows.mapM TypedRow.ofRow).mapError .storedLabel)
  forEach toFoundUser typed

end UserDirectory.Directory

import UserDirectory.Directory.Mapping
import UserDirectory.Paging.Policy

/-!
# Listing users

A page holds the users that are not deleted and pass the filters, by time of creation and then by
id, from the cursor on. The token of the next page names the last user of this one; only an empty
page has none.
-/
namespace UserDirectory.Directory

open Store Paging

structure Page where
  users : List User
  nextToken : Option String
deriving DecidableEq

/-- What to list. An empty name filter and an empty token are the same as none. -/
structure ListQuery where
  ids : Option (List UserId) := none
  name : Option String := none
  token : Option String := none
  pageSize : Option Int := none

def nonEmpty (s : Option String) : Option String := s.filter (· ≠ "")

def User.cursor (u : User) : Cursor := ⟨u.createdAt, u.id.text⟩

/-- The cursor that a token stands for, if there is a token. -/
def readToken (token : Option String) : Except CursorError (Option Cursor) :=
  match nonEmpty token with
  | none => .ok none
  | some s => (Cursor.ofToken s).map some

/-- The failure that a refusal of the listing statement is. -/
def listFailure : Refusal → Error
  | .limitOutOfRange => .limitOutOfRange
  | _ => .store .list

/-- The users of the page that a statement reads. -/
def listPage (q : PageQuery) : Action Error Page := do
  let rows ← Action.execute listFailure (page q)
  let users ← readUsers rows
  Action.note (.listed users.length q.limit)
  return ⟨users, users.getLast?.map fun u => (User.cursor u).token⟩

def list (policy : Policy) (q : ListQuery) : Action Error Page := do
  let after ← Action.ofExcept ((readToken q.token).mapError .token)
  listPage ⟨q.ids.map (·.map UserId.text), nonEmpty q.name, after, policy.pageSize q.pageSize⟩

end UserDirectory.Directory

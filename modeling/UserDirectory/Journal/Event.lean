import UserDirectory.Directory.Error

/-!
# Events

What the directory and its service note as they work. Each event has a level and a text.
-/
namespace UserDirectory.Journal

open Text Number Paging

inductive Level
  | debug
  | info
  | warning
  | error
  | critical
deriving DecidableEq, Repr

def Level.name : Level → String
  | .debug => "DEBUG"
  | .info => "INFO"
  | .warning => "WARNING"
  | .error => "ERROR"
  | .critical => "CRITICAL"

inductive Event
  | listed (count : Nat) (pageSize : Int)
  | upserted (id : UserId) (created : Bool)
  | erased (id : UserId) (found : Bool)
  | unreadableId (stored : String) (e : UserIdError)
  | listRequested (name : Option String) (ids : Option (List UserId)) (pageSize : Option Int)
  | tokenRejected (e : CursorError)
  | listFailed (e : Directory.Error)
  | upsertRequested (id : UserId) (userType : UserType) (entryPoint : EntryPoint)
  | upsertFailed (id : UserId) (e : Directory.Error)
  | upsertDone (id : UserId) (created : Bool)
  | eraseRequested (id : UserId)
  | eraseFailed (id : UserId) (e : Directory.Error)
  | searchRequested (term : String)
  | searchFailed (e : Directory.Error)
deriving DecidableEq

/-! ## Values in texts -/

def boolText (b : Bool) : String := if b then "True" else "False"

/-- Nothing is written as `None`. -/
def optionText {α : Type} (text : α → String) : Option α → String
  | none => "None"
  | some a => text a

def idsText (ids : List UserId) : String :=
  "[" ++ ", ".intercalate (ids.map fun id => quoted id.text) ++ "]"

/-! ## Level and text -/

namespace Event

def level : Event → Level
  | .listed _ _ | .upserted _ _ | .erased _ _ => .debug
  | .listRequested _ _ _ | .searchRequested _ => .debug
  | .tokenRejected _ | .upsertRequested _ _ _ | .upsertDone _ _ => .info
  | .eraseRequested _ => .warning
  | .unreadableId _ _ | .listFailed _ | .upsertFailed _ _ | .eraseFailed _ _ | .searchFailed _ =>
    .error

def message : Event → String
  | .listed count pageSize => s!"Listed users count={text count} page_size={text pageSize}"
  | .upserted id created => s!"Upserted user id={id.text} created={boolText created}"
  | .erased id found => s!"Soft-deleted user id={id.text} matched={boolText found}"
  | .unreadableId stored e => s!"Stored user id {quoted stored} does not parse: {e.message}"
  | .listRequested name ids pageSize =>
    s!"[UserService] List users filter_name={optionText id name} " ++
      s!"filter_ids={optionText idsText ids} page_size={optionText text pageSize}"
  | .tokenRejected e => s!"[UserService] Rejected page token: {e.message}"
  | .listFailed e => s!"[UserService] List failed: {e.message}"
  | .upsertRequested id userType entryPoint =>
    s!"[UserService] Upsert user id={id.text} type={userType.label} via={entryPoint.label}"
  | .upsertFailed id e => s!"[UserService] Upsert failed id={id.text}: {e.message}"
  | .upsertDone id created =>
    s!"[UserService] User " ++ (if created then "created" else "updated") ++ s!" id={id.text}"
  | .eraseRequested id => s!"[UserService] Delete user id={id.text}"
  | .eraseFailed id e => s!"[UserService] Delete failed id={id.text}: {e.message}"
  | .searchRequested term => s!"[UserService] Search users term={quoted term}"
  | .searchFailed e => s!"[UserService] Search failed: {e.message}"

end Event

end UserDirectory.Journal

import UserDirectory.Config.Settings
import UserDirectory.Directory.List
import UserDirectory.Directory.Search
import UserDirectory.Directory.Write
import UserDirectory.Input.Request

/-!
# The user service

The service runs each request in a transaction and gives its failures to clients as HTTP errors. A
read has a transaction of its own and refuses to share one. A write joins an open transaction, and
closes it.
-/
namespace UserDirectory

open Store Journal Input Time

/-- What a client is told. -/
inductive HttpError
  | badToken (e : Paging.CursorError)
  | userNotFound
  | listFailed
  | writeFailed
  | eraseFailed
  | searchFailed
deriving DecidableEq, Repr

namespace HttpError

def status : HttpError → Nat
  | .badToken _ => 400
  | .userNotFound => 404
  | .listFailed | .writeFailed | .eraseFailed | .searchFailed => 500

def detail : HttpError → String
  | .badToken e => e.message
  | .userNotFound => "User not found."
  | .listFailed => "Failed to list users"
  | .writeFailed => "Failed to create or update user"
  | .eraseFailed => "Failed to delete user"
  | .searchFailed => "Failed to search users"

end HttpError

/-- The failure of a session that is asked for a second transaction. -/
def transactionOpenMessage : String := "A transaction is already begun on this Session."

/-- Why a request fails: with an HTTP error, because a transaction is open, or with a failure of the
directory that is not made an HTTP error. -/
inductive ServiceError
  | http (e : HttpError)
  | transactionOpen
  | directory (e : Directory.Error)
deriving DecidableEq, Repr

structure Service where
  policy : Paging.Policy
deriving DecidableEq

namespace Service

variable {α : Type}

/-- The service that settings describe. -/
def ofSettings (s : Config.Settings) : Service := ⟨s.policy⟩

/-- Runs a read in a transaction of its own. -/
def reading (x : Action Directory.Error α) : Action ServiceError (Except Directory.Error α) :=
  fun s =>
    if s.inTransaction then Action.fail .transactionOpen s
    else Action.attempt (Action.inOwnTransaction x) s

/-- Runs a write in the open transaction, or in one that it opens; the transaction stays open. -/
def writing (x : Action Directory.Error α) : Action ServiceError (Except Directory.Error α) :=
  fun s => Action.attempt x (if s.inTransaction then s else s.opened)

/-- Notes a failure and gives an HTTP error. -/
def report (event : Event) (e : HttpError) : Action ServiceError α := do
  Action.note event
  Action.fail (.http e)

def list (service : Service) (q : ListRequest) : Action ServiceError Directory.Page := do
  Action.note (.listRequested q.filterName q.filterIds q.pageSize)
  match ← reading
      (Directory.list service.policy ⟨q.filterIds, q.filterName, q.pageToken, q.pageSize⟩) with
  | .ok page => return page
  | .error (.token e) => report (.tokenRejected e) (.badToken e)
  | .error (.storedLabel e) => Action.fail (.directory (.storedLabel e))
  | .error .limitOutOfRange => Action.fail (.directory .limitOutOfRange)
  | .error e => report (.listFailed e) .listFailed

def upsert (q : UpsertRequest) (reading : Option Instant) :
    Action ServiceError Directory.Outcome := do
  Action.note (.upsertRequested q.id q.userType q.lastUpdatedWith)
  match ← writing (Directory.atReading reading
    (Directory.write ⟨q.id, some q.name, q.email, q.userType, q.lastUpdatedWith⟩)) with
  | .ok outcome =>
    Action.modify Session.commit
    Action.note (.upsertDone outcome.user.id outcome.isCreated)
    return outcome
  | .error (.storedLabel e) => Action.fail (.directory (.storedLabel e))
  | .error .noInstant => Action.fail (.directory .noInstant)
  | .error e =>
    Action.modify Session.rollback
    report (.upsertFailed q.id e) .writeFailed

def delete (id : UserId) (reading : Option Instant) : Action ServiceError Unit := do
  Action.note (.eraseRequested id)
  match ← writing (Directory.atReading reading (Directory.erase id)) with
  | .ok found =>
    Action.modify Session.commit
    if found then return () else Action.fail (.http .userNotFound)
  | .error .noInstant => Action.fail (.directory .noInstant)
  | .error e =>
    Action.modify Session.rollback
    report (.eraseFailed id e) .eraseFailed

def search (q : SearchRequest) : Action ServiceError (List FoundUser) := do
  Action.note (.searchRequested q.term)
  match ← reading (Directory.search q.term) with
  | .ok users => return users
  | .error (.storedLabel e) => Action.fail (.directory (.storedLabel e))
  | .error e => report (.searchFailed e) .searchFailed

end Service

end UserDirectory

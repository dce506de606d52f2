import UserDirectory.Identity.User
import UserDirectory.Input.Email
import UserDirectory.Input.Scalar

/-!
# Requests

The requests to write, to list and to search users. Reading one from the fields of an object checks
every field by itself; a request that has been read holds parsed ids, a canonical address and known
labels.
-/
namespace UserDirectory.Input

def maxNameLength : Nat := 256
def maxTermLength : Nat := 64

/-- A text that a user id is read from. -/
def asUserId (v : Value) : Checked UserId :=
  (asText v).bind fun s =>
    match UserId.parse s with
    | .ok id => .ok id
    | .error e => refuse (.refused e.message)

/-- Ids are read only from a list of texts, and the first text that is no id is reported for the
list. -/
def asUserIds (v : Value) : Checked (List UserId) :=
  (items asText v).bind fun texts =>
    match texts.mapM UserId.parse with
    | .ok ids => .ok ids
    | .error e => refuse (.refused e.message)

def asEmail (v : Value) : Checked String :=
  (asText v).bind fun s =>
    match Email.canonical? s with
    | some address => .ok address
    | none => refuse .email

def asUserType : Value → Checked UserType := asLabel UserType.labels UserType.ofLabel?
def asEntryPoint : Value → Checked EntryPoint := asLabel EntryPoint.labels EntryPoint.ofLabel?

/-! ## Writing a user -/

structure UpsertRequest where
  id : UserId
  name : String
  email : Option String
  userType : UserType
  lastUpdatedWith : EntryPoint
deriving DecidableEq

def UpsertRequest.ofFields (fields : Fields) : Checked UpsertRequest :=
  let id := required fields "id" asUserId
  let name := required fields "name" (asShortText maxNameLength)
  let email := optional fields "email" asEmail
  let userType := withDefault fields "user_type" .human asUserType
  let entryPoint := withDefault fields "last_updated_with" .createEndpoint asEntryPoint
  match id, name, email, userType, entryPoint with
  | .ok id, .ok name, .ok email, .ok userType, .ok entryPoint =>
    .ok ⟨id, name, email, userType, entryPoint⟩
  | _, _, _, _, _ =>
    .error (issues id ++ issues name ++ issues email ++ issues userType ++ issues entryPoint)

/-! ## Listing users -/

structure ListRequest where
  filterIds : Option (List UserId) := none
  filterName : Option String := none
  pageToken : Option String := none
  pageSize : Option Int := none
deriving DecidableEq

def ListRequest.ofFields (fields : Fields) : Checked ListRequest :=
  let ids := optional fields "filter_ids" asUserIds
  let name := optional fields "filter_name" asText
  let token := optional fields "page_token" asText
  let size := optional fields "page_size" (asIntFrom 1)
  match ids, name, token, size with
  | .ok ids, .ok name, .ok token, .ok size => .ok ⟨ids, name, token, size⟩
  | _, _, _, _ => .error (issues ids ++ issues name ++ issues token ++ issues size)

/-! ## Searching users -/

structure SearchRequest where
  term : String
deriving DecidableEq

def SearchRequest.ofFields (fields : Fields) : Checked SearchRequest :=
  (required fields "search" (asShortText maxTermLength)).map SearchRequest.mk

/-! ## Requests from values of any kind -/

/-- Reads a model from an object. -/
def ofObject {α : Type} (model : String) (ofFields : Fields → Checked α) : Value → Checked α
  | .object fields => ofFields fields
  | _ => refuse (.notObject model)

def UpsertRequest.ofValue : Value → Checked UpsertRequest := ofObject "UserUpsert" ofFields
def ListRequest.ofValue : Value → Checked ListRequest := ofObject "UserListQuery" ofFields
def SearchRequest.ofValue : Value → Checked SearchRequest := ofObject "UserSearchQuery" ofFields

end UserDirectory.Input

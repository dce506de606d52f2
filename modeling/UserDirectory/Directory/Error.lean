import UserDirectory.Paging.Cursor
import UserDirectory.Identity.User

/-!
# Failures of directory operations
-/
namespace UserDirectory.Directory

open Paging Text

/-! ## Stored labels -/

/-- A label that was stored and is not a known one. -/
inductive LabelError
  | userType (stored : String)
  | entryPoint (stored : String)
deriving DecidableEq, Repr

/-- Labels of more than 11 characters are cut short. -/
def abbreviated (label : String) : String :=
  if label.length ≤ 11 then label else String.ofList (label.toList.take 11) ++ ".."

/-- The name of the stored type, and its labels. -/
def LabelError.message : LabelError → String
  | .userType stored => describe stored "user_type" UserType.labels
  | .entryPoint stored => describe stored "user_last_updated_with" EntryPoint.labels
where
  describe (stored typeName : String) (labels : List String) : String :=
    "\x27" ++ stored ++ "\x27 is not among the defined enum values. Enum name: " ++ typeName ++
      ". Possible values: " ++ ", ".intercalate (labels.map abbreviated)

/-! ## Operations -/

/-- What the directory was doing when the store failed. -/
inductive Task
  | list
  | upsert
  | erase
  | search
deriving DecidableEq, Repr

inductive Error
  | token (e : CursorError)
  | store (task : Task)
  | unsupportedDialect (name : String)
  | storedId (text : String) (e : UserIdError)
  | storedLabel (e : LabelError)
  | limitOutOfRange
  /-- The clock shows no instant. -/
  | noInstant
deriving DecidableEq, Repr

def Error.message : Error → String
  | .token e => e.message
  | .store .list => "Error fetching users"
  | .store .upsert => "Error creating or updating user"
  | .store .erase => "Error deleting user"
  | .store .search => "Error searching user"
  | .unsupportedDialect name => "Unsupported database dialect: " ++ name
  | .storedId text e => "Stored user id " ++ quoted text ++ " is invalid: " ++ e.message
  | .storedLabel e => e.message
  | .limitOutOfRange => "Python int too large to convert to SQLite INTEGER"
  | .noInstant => Time.noInstantMessage

end UserDirectory.Directory

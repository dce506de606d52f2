import UserDirectory.Directory.Mapping
import UserDirectory.Input.Shown
import UserDirectory.Store.Postgres

/-!
# Writing and erasing users

A user is created, or overwritten if there is one with the id, deleted or not. Where the store has
no single statement for this, a row is inserted unless its id is taken, and else the row with the id
is overwritten, in one transaction. Erasing keeps the row, its id and its time of creation.
-/
namespace UserDirectory.Directory

open Store Journal Time Input

/-- Runs an action at a reading of the clock. -/
def atReading {α : Type} (reading : Option Instant) (x : Instant → Action Error α) :
    Action Error α :=
  match reading with
  | some now => x now
  | none => Action.fail .noInstant

/-- What is written of a user. -/
structure Write where
  id : UserId
  name : Option String
  email : Option String := none
  userType : UserType := .human
  lastUpdatedWith : EntryPoint := .createEndpoint
deriving DecidableEq

/-- A value that is not a label. -/
inductive WriteError
  | entryPoint (label : Value)
  | userType (label : Value)
deriving Repr

def WriteError.message : WriteError → String
  | .entryPoint label => label.shown ++ " is not a valid UserLastUpdatedWith"
  | .userType label => label.shown ++ " is not a valid UserType"

def readLabel {α : Type} (ofLabel? : String → Option α) (refuse : Value → WriteError) :
    Value → Except WriteError α
  | .text label => (ofLabel? label).elim (.error (refuse (.text label))) .ok
  | v => .error (refuse v)

/-- Reads the label of the entry point, then that of the type. A label may be left out. -/
def Write.ofLabels (id : UserId) (name email : Option String) (entryPoint userType : Option Value) :
    Except WriteError Write := do
  let lastUpdatedWith ← entryPoint.elim (.ok .createEndpoint)
    (readLabel EntryPoint.ofLabel? .entryPoint)
  let userType ← userType.elim (.ok .human) (readLabel UserType.ofLabel? .userType)
  return { id, name, email, userType, lastUpdatedWith }

inductive Outcome
  | created (user : User)
  | updated (user : User)
deriving DecidableEq

def Outcome.user : Outcome → User
  | .created user => user
  | .updated user => user

def Outcome.isCreated : Outcome → Bool
  | .created _ => true
  | .updated _ => false

def Write.change (w : Write) : Change :=
  ⟨w.name, w.email, w.lastUpdatedWith.label, w.userType.label⟩

def Write.statement (w : Write) (now : Instant) : PostgresUpsert := ⟨w.id.text, w.change, now⟩

def writeFailure (_ : Refusal) : Error := .store .upsert

/-- Inserts a row or overwrites the one with its id. -/
def insertOrOverwrite (w : Write) (now : Instant) : Action Error (Bool × Row) :=
  Action.inTransaction do
    match ← Action.execute writeFailure (insertNew w.id.text w.change now) with
    | some row => return (true, row)
    | none =>
      match ← Action.execute writeFailure (overwrite w.id.text w.change now) with
      | [row] => return (false, row)
      | _ => Action.fail (.store .upsert)

/-- The outcome that the written row shows. -/
def readOutcome (created : Bool) (row : Row) : Action Error Outcome := do
  let user ← Action.ofExcept ((LabelledRow.ofRow row).mapError .storedLabel) >>= toUser
  Action.note (.upserted user.id created)
  return if created then .created user else .updated user

/-- Writes a user with a given way to have a server's statement answered. -/
def writeVia (server : PostgresUpsert → Action Error (Bool × Row)) (w : Write) (now : Instant) :
    Action Error Outcome := fun s =>
  match s.dialect with
  | .other name => Action.fail (.unsupportedDialect name) s
  | .postgresql => (server (w.statement now) >>= fun r => readOutcome r.1 r.2) s
  | .sqlite => (insertOrOverwrite w now >>= fun r => readOutcome r.1 r.2) s

def write (w : Write) (now : Instant) : Action Error Outcome :=
  writeVia (fun stmt => Action.execute writeFailure stmt.run) w now

/-- Erases a user; tells whether there was one. -/
def erase (id : UserId) (now : Instant) : Action Error Bool := do
  let count ← Action.execute (fun _ => .store .erase) (Store.erase id.text now)
  Action.note (.erased id (0 < count))
  return 0 < count

end UserDirectory.Directory

import UserDirectory.Store.Table

/-!
# Statements of a PostgreSQL server

A server of this kind inserts or overwrites a row in one statement, and has trigram distance as an
operator. Each statement has its text, its parameters and its meaning on a table.
-/
namespace UserDirectory.Store

open Time

/-- The value of a parameter. -/
inductive Param
  | null
  | text (s : String)
  | instant (t : Instant)
  | int (n : Int)

def Param.ofText? : Option String → Param
  | none => .null
  | some s => .text s

/-! ## Insert or overwrite -/

structure PostgresUpsert where
  id : String
  change : Change
  now : Instant
deriving DecidableEq

namespace PostgresUpsert

def sql : String :=
  "INSERT INTO users (id, name, email, last_updated_with, user_type, created_at) VALUES " ++
  "(%(id)s::VARCHAR, %(name)s::VARCHAR, %(email)s::VARCHAR, %(last_updated_with)s, " ++
  "%(user_type)s, " ++
  "%(created_at)s::TIMESTAMP WITH TIME ZONE) ON CONFLICT (id) DO UPDATE SET " ++
  "name = %(param_1)s::VARCHAR, email = %(param_2)s::VARCHAR, last_updated_with = %(param_3)s, " ++
  "user_type = %(param_4)s, updated_at = %(param_5)s::TIMESTAMP WITH TIME ZONE, " ++
  "deleted_at = %(param_6)s::TIMESTAMP WITH TIME ZONE RETURNING (xmax = 0) AS created, " ++
  "users.id, users.name, users.email, users.last_updated_with, users.user_type, " ++
  "users.created_at, users.updated_at"

def params (stmt : PostgresUpsert) : List (String × Param) :=
  [("id", .text stmt.id), ("name", .ofText? stmt.change.name),
    ("email", .ofText? stmt.change.email), ("last_updated_with", .text stmt.change.lastUpdatedWith),
    ("user_type", .text stmt.change.userType), ("created_at", .instant stmt.now),
    ("param_1", .ofText? stmt.change.name), ("param_2", .ofText? stmt.change.email),
    ("param_3", .text stmt.change.lastUpdatedWith),
    ("param_4", .text stmt.change.userType), ("param_5", .instant stmt.now), ("param_6", .null)]

/-- The row that is inserted; the columns that are not listed are null. -/
def newRow (stmt : PostgresUpsert) (name : String) : Row where
  id := stmt.id
  name := name
  email := stmt.change.email
  lastUpdatedWith := stmt.change.lastUpdatedWith
  userType := stmt.change.userType
  createdAt := stmt.now
  updatedAt := none
  deletedAt := none

/-- The listed columns of a row with the same id are set instead. -/
def setColumns (stmt : PostgresUpsert) (name : String) (row : Row) : Row where
  id := row.id
  name := name
  email := stmt.change.email
  lastUpdatedWith := stmt.change.lastUpdatedWith
  userType := stmt.change.userType
  createdAt := row.createdAt
  updatedAt := some stmt.now
  deletedAt := none

/-- Answers whether the row was inserted, and with the row. -/
def run (stmt : PostgresUpsert) : Statement (Bool × Row) := fun t =>
  match stmt.change.name with
  | none => .error .missingName
  | some name =>
    match t.filter (·.id == stmt.id) with
    | [] => .ok ((true, stmt.newRow name), t ++ [stmt.newRow name])
    | [row] =>
      .ok ((false, stmt.setColumns name row), t.map fun r => if r.id = stmt.id
        then stmt.setColumns name r else r)
    | _ => .error .severalRows

end PostgresUpsert

/-! ## Search -/

structure PostgresSearch where
  term : String
deriving DecidableEq

namespace PostgresSearch

def sql : String :=
  "SELECT users.id, users.name, users.email, users.user_type, " ++
  "users.name || %(name_1)s::VARCHAR || coalesce(users.email, %(coalesce_1)s::VARCHAR) <-> " ++
  "%(param_1)s::VARCHAR AS dist FROM users ORDER BY dist ASC, users.id ASC " ++
  "LIMIT %(param_2)s::INTEGER"

def params (stmt : PostgresSearch) : List (String × Param) :=
  [("coalesce_1", .text ""), ("name_1", .text " "), ("param_1", .text stmt.term),
    ("param_2", .int searchLimit)]

def run (stmt : PostgresSearch) : Statement (List Row) := nearest stmt.term

end PostgresSearch

end UserDirectory.Store

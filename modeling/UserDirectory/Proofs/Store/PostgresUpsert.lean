import UserDirectory.Store.Postgres

/-!
# The columns of a server's upsert

The text of the statement names the columns that are inserted and the columns that are set, each
with its parameter. The row that is inserted holds these parameters, and null in the columns that
are not named. A row with the same id keeps what it holds in the columns that are not set.
-/
namespace UserDirectory.Store

open Time

/-- The columns of a row and what they hold. -/
def Row.columns (row : Row) : List (String × Param) :=
  [("id", .text row.id), ("name", .text row.name), ("email", .ofText? row.email),
    ("last_updated_with", .text row.lastUpdatedWith), ("user_type", .text row.userType),
    ("created_at", .instant row.createdAt), ("updated_at", (row.updatedAt.map .instant).getD .null),
    ("deleted_at", (row.deletedAt.map .instant).getD .null)]

/-- A column, the parameter that it is given and the type that the parameter is cast to. -/
structure Assignment where
  column : String
  param : String
  type : Option String

def Assignment.value (a : Assignment) : String :=
  "%(" ++ a.param ++ ")s" ++ (a.type.map ("::" ++ ·)).getD ""

namespace PostgresUpsert

def insertedColumns : List Assignment :=
  [⟨"id", "id", some "VARCHAR"⟩, ⟨"name", "name", some "VARCHAR"⟩,
    ⟨"email", "email", some "VARCHAR"⟩, ⟨"last_updated_with", "last_updated_with", none⟩,
    ⟨"user_type", "user_type", none⟩, ⟨"created_at", "created_at", some "TIMESTAMP WITH TIME ZONE"⟩]

def changedColumns : List Assignment :=
  [⟨"name", "param_1", some "VARCHAR"⟩, ⟨"email", "param_2", some "VARCHAR"⟩,
    ⟨"last_updated_with", "param_3", none⟩, ⟨"user_type", "param_4", none⟩,
    ⟨"updated_at", "param_5", some "TIMESTAMP WITH TIME ZONE"⟩,
    ⟨"deleted_at", "param_6", some "TIMESTAMP WITH TIME ZONE"⟩]

/-- What is read of the row that results. -/
def returnedColumns : List String :=
  ["id", "name", "email", "last_updated_with", "user_type", "created_at", "updated_at"]

theorem sql_eq :
    sql = "INSERT INTO users (" ++ ", ".intercalate (insertedColumns.map (·.column)) ++
      ") VALUES (" ++
      ", ".intercalate (insertedColumns.map (·.value)) ++ ") ON CONFLICT (id) DO UPDATE SET " ++
      ", ".intercalate (changedColumns.map fun a => a.column ++ " = " ++ a.value) ++
      " RETURNING (xmax = 0) AS created, " ++
        ", ".intercalate (returnedColumns.map ("users." ++ ·)) := by
  decide +kernel

/-- The parameter that a column is given, if it is among those named. -/
def given (stmt : PostgresUpsert) (named : List Assignment) (column : String) : Option Param :=
  (named.find? (·.column == column)).bind fun a => stmt.params.lookup a.param

/-- The row that is inserted holds the parameters of the columns that are named, and null in the
others. -/
theorem columns_newRow {stmt : PostgresUpsert} {name : String}
    (named : stmt.change.name = some name) :
    (stmt.newRow name).columns =
      (stmt.newRow name).columns.map fun c =>
      (c.1, (stmt.given insertedColumns c.1).getD .null) := by
  obtain ⟨id, ⟨_, email, lastUpdatedWith, userType⟩, now⟩ := stmt
  obtain rfl := named
  rfl

/-- A row with the same id takes the parameters of the columns that are set, and keeps the
others. -/
theorem columns_setColumns {stmt : PostgresUpsert} {name : String}
    (named : stmt.change.name = some name) (row : Row) :
    (stmt.setColumns name row).columns =
      row.columns.map fun c => (c.1, (stmt.given changedColumns c.1).getD c.2) := by
  obtain ⟨id, ⟨_, email, lastUpdatedWith, userType⟩, now⟩ := stmt
  obtain rfl := named
  rfl

end PostgresUpsert

end UserDirectory.Store

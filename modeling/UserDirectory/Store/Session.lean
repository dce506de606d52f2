import UserDirectory.Store.Table

/-!
# Sessions

A session sees what has been committed and, while a transaction is open, its own changes. Every
statement outside a transaction opens one. A statement that fails undoes only itself. Whether the
store is out of service for a coming statement is part of the session, so that a run of a program is
a function of it.
-/
namespace UserDirectory.Store

/-- The table, or nothing once it has been dropped. -/
abbrev Contents := Option Table

/-- What a server speaks. -/
inductive Dialect
  | sqlite
  | postgresql
  | other (name : String)
deriving DecidableEq, Repr

def Dialect.ofName (name : String) : Dialect :=
  if name = "sqlite" then .sqlite else if name = "postgresql" then .postgresql else .other name

structure Session where
  committed : Contents := some []
  transaction : Option Contents := none
  dialect : Dialect := .sqlite
  /-- For each coming statement, whether the store fails it; it serves all statements after
  these. -/
  outages : List Bool := []

namespace Session

def inTransaction (s : Session) : Bool := s.transaction.isSome

/-- What the session sees. -/
def view (s : Session) : Contents := s.transaction.getD s.committed

/-- Opens a transaction on what the session sees. -/
def opened (s : Session) : Session := { s with transaction := some s.view }

/-- Opens a transaction where none is open. -/
def begin? (s : Session) : Option Session := if s.inTransaction then none else some s.opened

def commit (s : Session) : Session := { s with committed := s.view, transaction := none }

def rollback (s : Session) : Session := { s with transaction := none }

@[simp] theorem view_opened (s : Session) : s.opened.view = s.view := rfl

@[simp] theorem view_commit (s : Session) : s.commit.view = s.view := rfl

@[simp] theorem view_rollback (s : Session) : s.rollback.view = s.committed := rfl

@[simp] theorem inTransaction_opened (s : Session) : s.opened.inTransaction = true := rfl

@[simp] theorem inTransaction_commit (s : Session) : s.commit.inTransaction = false := rfl

@[simp] theorem inTransaction_rollback (s : Session) : s.rollback.inTransaction = false := rfl

/-- The answer of a statement on what is stored, and what is stored after it. -/
def answer {α : Type} (stmt : Statement α) : Contents → Except Refusal α × Contents
  | none => (.error .missingTable, none)
  | some t =>
    match stmt t with
    | .ok (a, t') => (.ok a, some t')
    | .error refusal => (.error refusal, some t)

/-- Runs a statement in the open transaction, or in one that it opens. -/
def execute {α : Type} (stmt : Statement α) (s : Session) : Except Refusal α × Session :=
  let later := { s with outages := s.outages.tail }
  if s.outages.headD false then (.error .outage, later.opened)
  else ((answer stmt s.view).1, { later with transaction := some (answer stmt s.view).2 })

/-- Commits, and drops the table. -/
def dropTable (s : Session) : Session := { s with committed := none, transaction := none }

/-- Adds rows as they are, and commits. -/
def seed (rows : List Row) (s : Session) : Session :=
  { s.opened with transaction := some (s.view.map (· ++ rows)) }.commit

end Session

end UserDirectory.Store

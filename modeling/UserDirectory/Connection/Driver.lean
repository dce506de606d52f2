import UserDirectory.Connection.Url

/-!
# Drivers

A driver name is the name of a dialect, alone or with the name of a driver after a plus sign. Some
drivers wait for answers and some do not; others are known, but the module that they need is not
there.
-/
namespace UserDirectory.Connection

open Text

inductive Driver
  | async (name : String)
  | blocking (name : String)
  | missing (module : String)
deriving DecidableEq, Repr

/-- Why a driver name names no driver. -/
inductive DriverError
  | tooManyParts
  | unknown (name : String)
deriving DecidableEq, Repr

def DriverError.message : DriverError → String
  | .tooManyParts => "too many values to unpack (expected 2)"
  | .unknown name =>
    "Can\x27t load plugin: sqlalchemy.dialects:" ++
      String.ofList (name.toList.map fun c => if c = '+' then '.' else c)

namespace Driver

/-- The driver of a dialect that is taken where none is named. -/
def defaultName : String := "base"

def sqlite : List (String × Driver) :=
  [("base", .blocking "pysqlite"), ("pysqlite", .blocking "pysqlite"),
    ("aiosqlite", .async "aiosqlite"), ("pysqlcipher", .missing "pysqlcipher3")]

def postgresql : List (String × Driver) := [("asyncpg", .async "asyncpg")]

/-- The drivers of MySQL and of MariaDB. -/
def mysql : List (String × Driver) :=
  [("base", .missing "MySQLdb"), ("mysqldb", .missing "MySQLdb"), ("aiomysql", .missing "aiomysql"),
    ("asyncmy", .missing "asyncmy"), ("cymysql", .missing "cymysql"),
    ("pymysql", .missing "pymysql"), ("mariadbconnector", .missing "mariadb"),
    ("mysqlconnector", .missing "mysql"), ("pyodbc", .missing "pyodbc")]

def mssql : List (String × Driver) :=
  [("base", .missing "pyodbc"), ("pyodbc", .missing "pyodbc"), ("aioodbc", .missing "aioodbc"),
    ("pymssql", .missing "pymssql"), ("mssqlpython", .missing "mssql_python")]

def oracle : List (String × Driver) :=
  [("base", .missing "oracledb"), ("oracledb", .missing "oracledb"),
    ("oracledb_async", .missing "oracledb"), ("cx_oracle", .missing "cx_Oracle")]

/-- The drivers of a dialect; none for an unknown one. -/
def ofDialect : String → List (String × Driver)
  | "sqlite" => sqlite
  | "postgresql" => postgresql
  | "mysql" => mysql
  | "mariadb" => mysql
  | "mssql" => mssql
  | "oracle" => oracle
  | _ => []

/-- The driver of a driver name. -/
def ofName (name : String) : Except DriverError Driver :=
  let find := fun dialect driver =>
    match (ofDialect (String.ofList dialect)).lookup driver with
    | some found => .ok found
    | none => .error (.unknown name)
  match pieces '+' name.toList with
  | [dialect] => find dialect defaultName
  | [dialect, driver] => find dialect (String.ofList driver)
  | _ => .error .tooManyParts

end Driver

end UserDirectory.Connection

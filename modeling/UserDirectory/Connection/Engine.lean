import UserDirectory.Connection.Driver
import UserDirectory.Connection.Option

/-!
# Engines

An engine is opened for a database URL in normal form. A SQLite database in memory keeps one
connection for all; any other database opens a connection for each use. A server is asked for
read-committed transactions and is reached with or without TLS. Only drivers that do not wait for
answers are let in.
-/
namespace UserDirectory.Connection

inductive Pool
  | static
  | perUse
deriving DecidableEq, Repr

def Pool.name : Pool → String
  | .static => "StaticPool"
  | .perUse => "NullPool"

structure ServerOptions where
  isolationLevel : String := "READ COMMITTED"
  tls : Bool
  statementCacheSize : Nat := 0
  checkBeforeUse : Bool := true
deriving DecidableEq, Repr

/-- What an engine is opened with. -/
structure EngineCall where
  url : String
  echo : Bool
  pool : Pool
  server : Option ServerOptions
deriving DecidableEq, Repr

structure Engine where
  call : EngineCall
  dialect : String
  driver : String
deriving DecidableEq, Repr

/-- Why no engine is opened. -/
inductive EngineError
  | url (e : UrlError)
  | unknownPlugin (name : String)
  | driver (e : DriverError)
  | missingModule (name : String)
  /-- A URL, here without its password, has credentials, a host or a port, and a file has none. -/
  | notFile (masked : String)
  | option (e : OptionError)
  | notAsync (name : String)
deriving DecidableEq, Repr

def EngineError.message : EngineError → String
  | .url e => e.message
  | .unknownPlugin name => "Can\x27t load plugin: sqlalchemy.plugins:" ++ name
  | .driver e => e.message
  | .missingModule name => "No module named \x27" ++ name ++ "\x27"
  | .notFile masked =>
    "Invalid SQLite URL: " ++ masked ++
      "\nValid SQLite URL forms are:\n sqlite:///:memory: (or, sqlite://)\n " ++
      "sqlite:///relative/path/to/file.db\n sqlite:////absolute/path/to/file.db"
  | .option e => e.message
  | .notAsync name =>
    "The asyncio extension requires an async driver to be used. The loaded \x27" ++ name ++
      "\x27 is not async."

namespace Engine

/-- Is the database one that lives in memory? -/
def isMemory (u : Url) : Bool :=
  u.database = none || u.database = some "" || u.database = some ":memory:"

/-- The call for a URL in normal form. -/
def callFor (u : Url) (echo tls : Bool) : EngineCall :=
  if u.backend = "sqlite" then ⟨u.render false, echo, if isMemory u then .static else .perUse, none⟩
  else ⟨u.render false, echo, .perUse, some { tls }⟩

/-- No plugins are known, so a URL may not name one. -/
def checkPlugins (u : Url) : Except EngineError Unit :=
  match u.query.lookup "plugin" with
  | some (name :: _) => .error (.unknownPlugin name)
  | _ => .ok ()

/-- Does the URL have credentials, a host or a port? Empty ones and the port zero do not count. -/
def hasAuthority (u : Url) : Bool :=
  u.username.any (· ≠ "") || u.password.any (· ≠ "") || u.host.any (· ≠ "") || u.port.any (· ≠ 0)

/-- Checks what a file database is opened with. -/
def checkFile (u : Url) : Except EngineError Unit :=
  if u.backend ≠ "sqlite" then .ok ()
  else if hasAuthority u then .error (.notFile (u.render true))
  else u.checkOptions.mapError .option

/-- The driver that a URL is opened with. -/
def load (u : Url) : Except EngineError String := do
  checkPlugins u
  match ← (Driver.ofName u.driverName).mapError .driver with
  | .missing module => .error (.missingModule module)
  | .async name =>
    checkFile u
    return name
  | .blocking name =>
    checkFile u
    .error (.notAsync name)

/-- Opens an engine. The URL of a server is read once more from the text that is passed on. -/
def build (raw : String) (echo tls : Bool) : Except EngineError Engine := do
  let u ← (Url.parse raw).mapError .url
  let call := callFor u.normalize echo tls
  let reread ← (if call.server.isSome then Url.parse call.url else .ok u.normalize).mapError .url
  let driver ← load reread
  return ⟨call, reread.backend, driver⟩

end Engine

end UserDirectory.Connection

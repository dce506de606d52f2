import UserDirectory.Number.Numeral
import UserDirectory.Text.Cut
import UserDirectory.Text.Percent

/-!
# Database URLs

A URL names a driver, credentials, a host and port, a database and options, and all but the driver
may be missing. Reading takes the longest part that fits at each place: the password ends at the
first at sign, a user name without password at the last one before any colon or slash, a bracketed
host at the last closing bracket. What follows the part that reads is ignored.
-/
namespace UserDirectory.Connection

open Text Number

structure Url where
  driverName : String
  username : Option String := none
  password : Option String := none
  host : Option String := none
  port : Option Int := none
  database : Option String := none
  /-- Options by name, in the order in which the names first came. -/
  query : List (String × List String) := []
deriving DecidableEq, Repr

/-- Why a text is no database URL. -/
inductive UrlError
  | unreadable
  | badPort (e : NumeralError)
deriving DecidableEq, Repr

def UrlError.message : UrlError → String
  | .unreadable => "Could not parse SQLAlchemy URL from given URL string"
  | .badPort e => e.message

namespace Url

/-! ## Parts of a text -/

/-- The driver name before `://`, and the rest. -/
def splitDriver? (s : List Char) : Option (List Char × List Char) :=
  let inName := fun c => isWordChar c || c == '+'
  match s.takeWhile inName, s.dropWhile inName with
  | c :: name, ':' :: '/' :: '/' :: rest => some (c :: name, rest)
  | _, _ => none

/-- Credentials before an at sign, and the rest. -/
structure Credentials where
  username : Option (List Char)
  password : Option (List Char)
  rest : List Char

def splitUsername (s : List Char) : Credentials :=
  let inName := fun c => c != ':' && c != '/'
  match cutLast? '@' (s.takeWhile inName) with
  | some (user, more) => ⟨some user, none, more ++ s.dropWhile inName⟩
  | none => ⟨none, none, s⟩

def splitCredentials (s : List Char) : Credentials :=
  let inName := fun c => c != ':' && c != '/'
  match s.dropWhile inName with
  | ':' :: more =>
    match cut? '@' more with
    | some (password, rest) => ⟨some (s.takeWhile inName), some password, rest⟩
    | none => splitUsername s
  | _ => splitUsername s

def splitPlainHost (s : List Char) : Option (List Char) × List Char :=
  let inHost := fun c => c != '/' && c != ':' && c != '?'
  (if s.takeWhile inHost = [] then none else some (s.takeWhile inHost), s.dropWhile inHost)

def splitHost (s : List Char) : Option (List Char) × List Char :=
  let inAuthority := fun c => c != '/' && c != '?'
  match s with
  | '[' :: inner =>
    match cutLast? ']' (inner.takeWhile inAuthority) with
    | some (c :: host, more) => (some (c :: host), more ++ inner.dropWhile inAuthority)
    | _ => splitPlainHost s
  | _ => splitPlainHost s

/-- The part that a mark begins, up to a character where it ends, and the rest. -/
def splitPart (mark : Char) (goesOn : Char → Bool) (s : List Char) :
    Option (List Char) × List Char :=
  match s with
  | c :: more => if c = mark then (some (more.takeWhile goesOn), more.dropWhile goesOn)
      else (none, s)
  | [] => (none, [])

/-! ## Options -/

/-- Adds a value of an option after its earlier ones. -/
def addOption (name value : String) : List (String × List String) → List (String × List String)
  | [] => [(name, [value])]
  | (n, values) :: rest =>
    if n = name then (n, values ++ [value]) :: rest else (n, values) :: addOption name value rest

/-- The options of a query; those without a value are dropped. -/
def readQuery (s : List Char) : List (String × List String) :=
  (pieces '&' s).foldl (fun query piece =>
    match cut? '=' piece with
    | some (name, c :: value) =>
      addOption (String.ofList (Percent.decodeForm name))
      (String.ofList (Percent.decodeForm (c :: value))) query
    | _ => query) []

/-! ## Reading -/

def decoded (s : Option (List Char)) : Option String :=
  s.map fun s => String.ofList (Percent.decode s)

def readPort : Option (List Char) → Except UrlError (Option Int)
  | none => .ok none
  | some s => ((readFree (String.ofList s)).mapError .badPort).map some

def parse (s : String) : Except UrlError Url :=
  match splitDriver? s.toList with
  | none => .error .unreadable
  | some (driverName, rest) =>
    let credentials := splitCredentials rest
    let (host, rest) := splitHost credentials.rest
    let (port, rest) := splitPart ':' (fun c => c != '/' && c != '?') rest
    let (database, rest) := splitPart '/' (· != '?') rest
    let (query, _) := splitPart '?' (· != '\n') rest
    (readPort port).map fun port => {
      driverName := String.ofList driverName
      username := decoded credentials.username
      password := decoded credentials.password
      host := host.map String.ofList
      port
      database := decoded database
      query := readQuery (query.getD []) }

/-! ## Writing -/

def encodeCredential (s : String) : List Char :=
  Percent.encode (fun c => Percent.isUnreserved c || c == ' ' || c == '+') s.toList

def encodeDatabase (s : String) : List Char :=
  Percent.encode (fun c => Percent.isUnreserved c || c == ' ' || c == '+' || c == '/') s.toList

/-- The password itself, or three asterisks for any. -/
def credentialsText (u : Url) (masked : Bool) : List Char :=
  match u.username with
  | none => []
  | some user =>
    encodeCredential user ++
      (match u.password with
        | none => []
        | some password => ':' :: if masked then ['*', '*', '*'] else encodeCredential password) ++
        ['@']

def hostText : Option String → List Char
  | none => []
  | some host => if host.toList.contains ':' then '[' :: host.toList ++ [']'] else host.toList

def optionTexts (option : String × List String) : List (List Char) :=
  option.2.map fun value => Percent.encodeForm option.1.toList ++ '=' ::
    Percent.encodeForm value.toList

/-- The options in ascending order of their names. -/
def queryText (query : List (String × List String)) : List Char :=
  if query = [] then []
  else '?' :: ['&'].intercalate ((query.mergeSort fun a b => a.1 ≤ b.1).flatMap optionTexts)

def render (u : Url) (masked : Bool) : String :=
  String.ofList (
    u.driverName.toList ++ "://".toList ++ u.credentialsText masked ++ hostText u.host ++
      (match u.port with | none => [] | some n => ':' :: intText n) ++
      (match u.database with | none => [] | some d => '/' :: encodeDatabase d) ++ queryText u.query)

/-! ## Normal form -/

/-- The driver name up to a plus sign. -/
def backend (u : Url) : String := String.ofList (u.driverName.toList.takeWhile (· != '+'))

/-- A PostgreSQL URL is turned to the asynchronous driver and loses its options. -/
def normalize (u : Url) : Url :=
  if u.backend = "postgresql" then { u with driverName := "postgresql+asyncpg", query := [] } else u

theorem normalize_eq_self {u : Url} (h : u.backend ≠ "postgresql") : u.normalize = u := by
  simp [normalize, h]

end Url

end UserDirectory.Connection

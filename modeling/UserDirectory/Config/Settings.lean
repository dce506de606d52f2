import UserDirectory.Config.Dotenv
import UserDirectory.Input.Scalar
import UserDirectory.Paging.Policy
import UserDirectory.Text.Case

/-!
# Settings

Six settings, each given directly, by the environment, by an environment file or by default, in this
order. Names count in any case; of the values that are given directly, one under the name as it is
written here goes before the others. Every setting is checked, the defaults too; the two page sizes
are compared only when each setting is valid by itself.
-/
namespace UserDirectory.Config

open Input Text

structure Settings where
  debug : Bool
  logLevel : String
  databaseUrl : String
  databaseSsl : Bool
  defaultPageSize : Int
  maxPageSize : Int
deriving DecidableEq, Repr

/-- Where settings come from. -/
structure Sources where
  direct : Fields := []
  environment : List (String × String) := []
  file : Option String := none

/-! ## Look-up -/

/-- The last value whose name is the given one in small letters. -/
def lookupFolded {α : Type} (name : String) (entries : List (String × α)) : Option α :=
  (entries.reverse.find? fun entry => lower entry.1 == lower name).map (·.2)

/-- The last value under the given name, or else under that name in another case. -/
def lookupDirect (name : String) (entries : Fields) : Option Value :=
  match entries.reverse.lookup name with
  | some v => some v
  | none => lookupFolded name entries

def Sources.lookup (sources : Sources) (name : String) : Option Value :=
  match lookupDirect name sources.direct with
  | some v => some v
  | none =>
    match lookupFolded name sources.environment with
    | some s => some (.text s)
    | none =>
      match sources.file with
      | none => none
      | some file => ((lookupFolded name (Dotenv.read sources.environment file)).join).map .text

/-! ## Checks of single settings -/

/-- An empty level is `INFO`; a level is trimmed and written in capitals. -/
def canonicalLevel (s : String) : String :=
  upper (String.ofList (trim isBlank (if s = "" then "INFO" else s).toList))

def asUrl (name : String) (v : Value) : Checked String :=
  (asText v).bind fun s => if s = ""
    then refuse (.refused (name ++ " is required (set it in .env)")) else .ok s

def asPageSize (name : String) (v : Value) : Checked Int :=
  (asInt v).bind fun n => if n ≤ 0 then refuse (.refused (name ++ " must be > 0")) else .ok n

/-- Checks the value of a setting, or its default. -/
def setting {α : Type} (sources : Sources) (name : String) (default : Value)
    (check : Value → Checked α) :
    Checked α :=
  inside (.field name) (check ((sources.lookup name).getD default))

/-! ## All settings -/

/-- Settings whose default page size is not the larger one. -/
def Settings.ordered (s : Settings) : Checked Settings :=
  if s.maxPageSize < s.defaultPageSize then
    refuse (.refused "PAGINATION_SIZE_DEFAULT must be <= PAGINATION_SIZE_MAX")
  else .ok s

def Settings.load (sources : Sources) : Checked Settings :=
  let debug := setting sources "DEBUG" (.bool false) asBool
  let level := setting sources "LOG_LEVEL" (.text "INFO") fun v => (asText v).map canonicalLevel
  let url := setting sources "DATABASE_URL" (.text "") (asUrl "DATABASE_URL")
  let ssl := setting sources "DATABASE_SSL" (.bool true) asBool
  let default := setting sources "PAGINATION_SIZE_DEFAULT" (.int 100)
    (asPageSize "PAGINATION_SIZE_DEFAULT")
  let max := setting sources "PAGINATION_SIZE_MAX" (.int 1000) (asPageSize "PAGINATION_SIZE_MAX")
  match debug, level, url, ssl, default, max with
  | .ok debug, .ok level, .ok url, .ok ssl, .ok default, .ok max =>
    Settings.ordered ⟨debug, level, url, ssl, default, max⟩
  | _, _, _, _, _, _ =>
    .error (issues debug ++ issues level ++ issues url ++ issues ssl ++
      issues default ++ issues max)

/-- The page sizes that lists go by. -/
def Settings.policy (s : Settings) : Paging.Policy := ⟨s.defaultPageSize, s.maxPageSize⟩

end UserDirectory.Config

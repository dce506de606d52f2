import UserDirectory.Connection.Url
import UserDirectory.Number.Real
import UserDirectory.Text.Case

/-!
# Options of a file database

A URL of a database in a file may set options of the connection. Each has a type, and its value is
read as one of that type. An option that is given more than once is true as a truth value and is no
number. Options that are not known go into the name of the file where that is a URI.
-/
namespace UserDirectory.Connection

open Text Number

inductive OptionType
  | truthValue
  | real
  | integer
  | text
deriving DecidableEq, Repr

/-- The options of a connection, in the order in which they are read. -/
def fileOptions : List (String × OptionType) :=
  [("uri", .truthValue), ("timeout", .real), ("isolation_level", .text), ("detect_types", .integer),
    ("check_same_thread", .truthValue), ("cached_statements", .integer)]

/-- Why an option is refused. -/
inductive OptionError
  | notTruthValue (word : String)
  | notReal (text : String)
  | notInteger (e : NumeralError)
  | severalReals
  | severalIntegers
  | uriWithoutFile
deriving DecidableEq, Repr

def OptionError.message : OptionError → String
  | .notTruthValue word => "String is not true/false: " ++ quoted word
  | .notReal text => "could not convert string to float: " ++ quoted text
  | .notInteger e => e.message
  | .severalReals => "float() argument must be a string or a real number, not \x27tuple\x27"
  | .severalIntegers =>
    "int() argument must be a string, a bytes-like object or a real number, not \x27tuple\x27"
  | .uriWithoutFile => "unsupported operand type(s) for +=: \x27NoneType\x27 and \x27str\x27"

def trueOptions : List String := ["true", "yes", "on", "y", "t", "1"]
def falseOptions : List String := ["false", "no", "off", "n", "f", "0"]

/-- Reads a word as a truth value; neither case nor white space around it counts. -/
def readTruthValue (s : String) : Except OptionError Bool :=
  let word := lower (String.ofList (trim isBlank s.toList))
  if trueOptions.contains word then .ok true
  else if falseOptions.contains word then .ok false
  else .error (.notTruthValue word)

/-- Checks the values of an option. -/
def OptionType.check : OptionType → List String → Except OptionError Unit
  | .truthValue, [s] => (readTruthValue s).map fun _ => ()
  | .real, [s] => if isReal s then .ok () else .error (.notReal s)
  | .real, _ => .error .severalReals
  | .integer, [s] => (readFree s).mapError .notInteger |>.map fun _ => ()
  | .integer, _ => .error .severalIntegers
  | _, _ => .ok ()

namespace Url

/-- Is the name of the file a URI? -/
def isUri (u : Url) : Bool :=
  match u.query.lookup "uri" with
  | some [s] => (readTruthValue s).toOption.getD false
  | some _ => true
  | none => false

/-- Checks the options in order, and that there is a name to which the unknown ones can be added. -/
def checkOptions (u : Url) : Except OptionError Unit := do
  fileOptions.forM fun (name, type) =>
    match u.query.lookup name with
    | some values => type.check values
    | none => .ok ()
  if u.isUri && u.database.isNone &&
    u.query.any (fun option => (fileOptions.lookup option.1).isNone) then
    .error .uriWithoutFile

end Url

end UserDirectory.Connection

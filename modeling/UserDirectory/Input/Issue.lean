import UserDirectory.Input.Value

/-!
# Issues of refused input

Checking a value gives a result or the issues that were found. Each issue says where in the input it
lies and what is wrong there; independent parts are all checked, and their issues are listed in
order.
-/
namespace UserDirectory.Input

inductive Place
  | field (name : String)
  | index (n : Nat)
deriving DecidableEq, Repr

/-- What is wrong with a value. -/
inductive Fault
  | missing
  | notObject (model : String)
  | notText
  | tooShort
  | tooLong (limit : Nat)
  | notLabel (labels : List String)
  | notList
  | notInteger
  | noNumeral
  | numeralTooLong
  | fractional
  | notFinite
  | notBool
  | noBoolWord
  | below (limit : Int)
  | email
  | refused (reason : String)
deriving DecidableEq, Repr

/-- The labels between single quotes, with commas between them and `or` before the last. -/
def choice : List String → String
  | [] => ""
  | [a] => "\x27" ++ a ++ "\x27"
  | [a, b] => "\x27" ++ a ++ "\x27 or \x27" ++ b ++ "\x27"
  | a :: rest => "\x27" ++ a ++ "\x27, " ++ choice rest

namespace Fault

def code : Fault → String
  | .missing => "missing"
  | .notObject _ => "model_type"
  | .notText => "string_type"
  | .tooShort => "string_too_short"
  | .tooLong _ => "string_too_long"
  | .notLabel _ => "enum"
  | .notList => "list_type"
  | .notInteger => "int_type"
  | .noNumeral => "int_parsing"
  | .numeralTooLong => "int_parsing_size"
  | .fractional => "int_from_float"
  | .notFinite => "finite_number"
  | .notBool => "bool_type"
  | .noBoolWord => "bool_parsing"
  | .below _ => "greater_than_equal"
  | .email => "value_error"
  | .refused _ => "value_error"

def message : Fault → String
  | .missing => "Field required"
  | .notObject model => "Input should be a valid dictionary or instance of " ++ model
  | .notText => "Input should be a valid string"
  | .tooShort => "String should have at least 1 character"
  | .tooLong limit => s!"String should have at most {limit} characters"
  | .notLabel labels => "Input should be " ++ choice labels
  | .notList => "Input should be a valid list"
  | .notInteger => "Input should be a valid integer"
  | .noNumeral => "Input should be a valid integer, unable to parse string as an integer"
  | .numeralTooLong => "Unable to parse input string as an integer, exceeded maximum size"
  | .fractional => "Input should be a valid integer, got a number with a fractional part"
  | .notFinite => "Input should be a finite number"
  | .notBool => "Input should be a valid boolean"
  | .noBoolWord => "Input should be a valid boolean, unable to interpret input"
  | .below limit => s!"Input should be greater than or equal to {limit}"
  | .email => "value is not a valid email address"
  | .refused reason => "Value error, " ++ reason

end Fault

structure Issue where
  place : List Place
  fault : Fault
deriving DecidableEq, Repr

/-- The result of a check, or the issues found. -/
abbrev Checked (α : Type) := Except (List Issue) α

variable {α β : Type}

def refuse (fault : Fault) : Checked α := .error [⟨[], fault⟩]

def issues : Checked α → List Issue
  | .ok _ => []
  | .error found => found

@[simp] theorem issues_ok (a : α) : issues (.ok a : Checked α) = [] := rfl

/-- Puts the issues of a part at its place in the whole. -/
def inside (place : Place) (c : Checked α) : Checked α :=
  c.mapError fun found => found.map fun issue => { issue with place := place :: issue.place }

@[simp] theorem inside_ok (place : Place) (a : α) : inside place (.ok a : Checked α) = .ok a := rfl

theorem inside_eq_ok {place : Place} {c : Checked α} {a : α} :
    inside place c = .ok a ↔ c = .ok a := by
  cases c with
  | ok b => exact Iff.rfl
  | error found =>
    constructor <;>
    · intro h
      cases h

/-! ## Fields of an object -/

abbrev Fields := List (String × Value)

def required (fields : Fields) (name : String) (check : Value → Checked α) : Checked α :=
  inside (.field name) (match fields.lookup name with
    | none => refuse .missing
    | some v => check v)

def withDefault (fields : Fields) (name : String) (default : α) (check : Value → Checked α) :
    Checked α :=
  match fields.lookup name with
  | none => .ok default
  | some v => inside (.field name) (check v)

/-- Accepts null as nothing. -/
def nullable (check : Value → Checked α) : Value → Checked (Option α)
  | .null => .ok none
  | v => (check v).map some

def optional (fields : Fields) (name : String) (check : Value → Checked α) : Checked (Option α) :=
  withDefault fields name none (nullable check)

/-- Checks the items of a list, each at its index. -/
def itemsFrom (check : Value → Checked α) : Nat → List Value → Checked (List α)
  | _, [] => .ok []
  | n, v :: rest =>
    match inside (.index n) (check v), itemsFrom check (n + 1) rest with
    | .ok a, .ok as => .ok (a :: as)
    | head, tail => .error (issues head ++ issues tail)

def items (check : Value → Checked α) : Value → Checked (List α)
  | .list vs => itemsFrom check 0 vs
  | _ => refuse .notList

end UserDirectory.Input

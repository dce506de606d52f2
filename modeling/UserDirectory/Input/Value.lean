import UserDirectory.Number.Binary64

/-!
# Values of requests

What a request or a configuration may hold before it has been checked.
-/
namespace UserDirectory.Input

open Number

inductive Value
  | null
  | bool (b : Bool)
  | int (n : Int)
  | real (x : Binary64)
  | text (s : String)
  | list (items : List Value)
  | object (fields : List (String × Value))
deriving Repr

/-- The word for the kind of a value in messages. -/
def Value.kind : Value → String
  | .null => "NoneType"
  | .bool _ => "bool"
  | .int _ => "int"
  | .real _ => "float"
  | .text _ => "str"
  | .list _ => "list"
  | .object _ => "dict"

end UserDirectory.Input

import UserDirectory.Input.Value
import UserDirectory.Number.Shortest

/-!
# Values in messages

How a value is shown where a message refuses it. Texts are quoted, also inside lists and objects.
-/
namespace UserDirectory.Input

open Number Text

mutual

/-- The text that stands for a value in messages. -/
def Value.shown : Value → String
  | .null => "None"
  | .bool b => if b then "True" else "False"
  | .int n => Number.text n
  | .real x => x.text
  | .text s => quoted s
  | .list items => "[" ++ ", ".intercalate (shownItems items) ++ "]"
  | .object fields => "\x7b" ++ ", ".intercalate (shownFields fields) ++ "\x7d"

def shownItems : List Value → List String
  | [] => []
  | v :: rest => v.shown :: shownItems rest

def shownFields : List (String × Value) → List String
  | [] => []
  | (name, v) :: rest => (quoted name ++ ": " ++ v.shown) :: shownFields rest

end

end UserDirectory.Input

import UserDirectory.Text.CaseTable
import UserDirectory.Text.CharClass

/-!
# Letter case

Full case mapping of texts. A capital may become several characters, and the small form of sigma
depends on its neighbours: at the end of a word it is `ς`, elsewhere `σ`. Neighbours are sought over
case-ignorable characters on both sides.
-/
namespace UserDirectory.Text

def mapCase (runs : List CaseRun) (n : Nat) : Nat :=
  match runs with
  | [] => n
  | run :: rest =>
    if n < run.first then n
    else if n ≤ run.last && (n - run.first) % run.step == 0 then (n + run.shift).toNat
    else mapCase rest n

def isCased (c : Char) : Bool := cased.holds c.toNat
def isCaseIgnorable (c : Char) : Bool := caseIgnorable.holds c.toNat

/-! ## Small letters -/

/-- The small form of a character other than the capital sigma. -/
def lowerChar (c : Char) : List Char :=
  if c.toNat == 0x130 then ['i', '\u0307'] else [Char.ofNat (mapCase lowerRuns c.toNat)]

/-- Does the first character that is not case-ignorable have case? -/
def startsCased : List Char → Bool
  | [] => false
  | c :: rest => if isCaseIgnorable c then startsCased rest else isCased c

/-- The small form of a text that follows on a text whose last character that is not case-ignorable
has case exactly when `after` holds. -/
def lowerAfter (after : Bool) : List Char → List Char
  | [] => []
  | c :: rest =>
    (if c == 'Σ' then [if after && !startsCased rest then 'ς' else 'σ'] else lowerChar c) ++
      lowerAfter (if isCaseIgnorable c then after else isCased c) rest

def lower (s : String) : String := String.ofList (lowerAfter false s.toList)

/-! ## Capital letters -/

def upperChar (c : Char) : List Char :=
  match upperExpansions.lookup c.toNat with
  | some expansion => expansion.map Char.ofNat
  | none => [Char.ofNat (mapCase upperRuns c.toNat)]

def upper (s : String) : String := String.ofList (s.toList.flatMap upperChar)

end UserDirectory.Text

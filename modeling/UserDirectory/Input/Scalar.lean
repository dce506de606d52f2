import UserDirectory.Input.Issue
import UserDirectory.Number.Numeral

/-!
# Texts, truth values, integers and labels

Texts are taken as they are. Truth values and integers are also read from numbers and from words.
-/
namespace UserDirectory.Input

open Number

def asText : Value → Checked String
  | .text s => .ok s
  | _ => refuse .notText

/-- A text of at least one character and at most `limit`. -/
def asShortText (limit : Nat) (v : Value) : Checked String :=
  (asText v).bind fun s =>
    if s = "" then refuse .tooShort
    else if s.length ≤ limit then .ok s
    else refuse (.tooLong limit)

/-- The label of one of the cases of a type. -/
def asLabel {α : Type} (labels : List String) (ofLabel? : String → Option α) : Value → Checked α
  | .text s =>
    match ofLabel? s with
    | some a => .ok a
    | none => refuse (.notLabel labels)
  | _ => refuse (.notLabel labels)

/-! ## Truth values -/

def trueWords : List String := ["1", "t", "true", "y", "yes", "on"]
def falseWords : List String := ["0", "f", "false", "n", "no", "off"]

/-- The largest integer of 64 bits with a sign. -/
def maxInt64 : Int := 9223372036854775807

/-- One and zero are truth values. Other numbers of 64 bits are read as words that are none. -/
def boolOfInt (n : Int) : Checked Bool :=
  if n = 1 then .ok true
  else if n = 0 then .ok false
  else if -maxInt64 - 1 ≤ n ∧ n ≤ maxInt64 then refuse .noBoolWord
  else refuse .notBool

/-- Is a number without its fraction within 64 bits, the least integer of these left out? -/
def isWithin64 (n : Int) : Bool := n.natAbs ≤ maxInt64.natAbs

/-- Words count in any ASCII case. -/
def asBool : Value → Checked Bool
  | .bool b => .ok b
  | .text s =>
    let word := String.ofList (s.toList.map Char.toLower)
    if trueWords.contains word then .ok true
    else if falseWords.contains word then .ok false
    else refuse .noBoolWord
  | .int n => boolOfInt n
  | .real x =>
    match x.truncate? with
    | some n => if x.hasFraction || !isWithin64 n then refuse .notBool else boolOfInt n
    | none => refuse .notBool
  | _ => refuse .notBool

/-! ## Integers -/

def ofNumeral (s : String) : Checked Int :=
  match readSetting s with
  | .ok n => .ok n
  | .error (.malformed _) => refuse .noNumeral
  | .error (.tooManyDigits _) => refuse .numeralTooLong

/-- A number with a fraction of zero counts if it is within 64 bits. -/
def ofReal (x : Binary64) : Checked Int :=
  match x.truncate? with
  | none => refuse .notFinite
  | some n =>
    if x.hasFraction then refuse .fractional
    else if isWithin64 n then .ok n
    else refuse .numeralTooLong

def asInt : Value → Checked Int
  | .int n => .ok n
  | .bool b => .ok b.toInt
  | .real x => ofReal x
  | .text s => ofNumeral s
  | _ => refuse .notInteger

/-- An integer that is not below a limit. -/
def asIntFrom (limit : Int) (v : Value) : Checked Int :=
  (asInt v).bind fun n => if limit ≤ n then .ok n else refuse (.below limit)

end UserDirectory.Input

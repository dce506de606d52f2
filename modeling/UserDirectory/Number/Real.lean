import UserDirectory.Number.Numeral

/-!
# Numerals of real numbers

Digits of any decimal script with a point and an exponent, or a word for infinity or for no number;
a sign may stand before either, single underscores between digits, and white space around.
-/
namespace UserDirectory.Number

open Text

/-- Words that stand for a number in any ASCII case. -/
def realWords : List String := ["inf", "infinity", "nan"]

/-- Passes over digits, if there are any. Fails where an underscore is not between two digits. -/
def skipDigits? (s : List Char) : Option (Bool × List Char) :=
  match s with
  | c :: _ =>
    if (decimalDigit? c).isSome then (digitRun decimalDigit? s).map fun (_, rest) => (true, rest)
    else some (false, s)
  | [] => some (false, [])

/-- Passes over digits with or without a point; there has to be one digit. -/
def skipMantissa? (s : List Char) : Option (List Char) := do
  let (whole, rest) ← skipDigits? s
  match rest with
  | '.' :: more =>
    let (fraction, rest) ← skipDigits? more
    if whole || fraction then some rest else none
  | _ => if whole then some rest else none

/-- Is the text an exponent, or empty? -/
def isExponent (s : List Char) : Bool :=
  match s with
  | [] => true
  | c :: rest =>
    (c == 'e' || c == 'E') && skipDigits? (splitSign rest).2 == some (true, [])

/-- Is the text a numeral of a real number? -/
def isReal (s : String) : Bool :=
  let body := (splitSign (trim isWhiteSpace s.toList)).2
  realWords.contains (String.ofList (body.map Char.toLower)) || (skipMantissa? body).any isExponent

end UserDirectory.Number

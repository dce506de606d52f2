import UserDirectory.Text.Cut
import UserDirectory.Text.Quoted

/-!
# Numerals of integers

An integer is written in decimal without leading zeros. Three grammars read one back: the plain one
of page tokens (an optional minus sign and ASCII digits), the free one (digits of any decimal
script, a sign, single underscores between digits, white space around), and that of settings (ASCII
digits with a plus sign, leading zeros, underscores and a fraction of zeros, all of which are
dropped, and a minus sign before the digits that count). No numeral of more than 4300 digits is
read; zeros that are dropped do not count.
-/
namespace UserDirectory.Number

open Text

/-- The largest number of digits that a numeral may have. -/
def maxDigits : Nat := 4300

/-- Why a text is not read as an integer. -/
inductive NumeralError
  | malformed (text : String)
  | tooManyDigits (count : Nat)
deriving DecidableEq, Repr

/-- The refused text is quoted, at a length of at most 200 characters. -/
def NumeralError.message : NumeralError → String
  | .malformed text =>
    "invalid literal for int() with base 10: " ++ String.ofList ((quotedChars text.toList).take 200)
  | .tooManyDigits count =>
    s!"Exceeds the limit ({maxDigits} digits) for integer string conversion: " ++
      s!"value has {count} digits; use sys.set_int_max_str_digits() to increase the limit"

/-! ## Writing -/

def natText (n : Nat) : List Char := Nat.toDigits 10 n

def intText : Int → List Char
  | .ofNat n => natText n
  | .negSucc n => '-' :: natText (n + 1)

/-- An integer as a text. -/
def text (n : Int) : String := String.ofList (intText n)

/-- A number in decimal with leading zeros up to a width. -/
def padded (width n : Nat) : List Char :=
  List.replicate (width - (natText n).length) '0' ++ natText n

/-! ## Reading -/

/-- The number with the given digits. -/
def value (digits : List Nat) : Nat := digits.foldl (fun n d => n * 10 + d) 0

theorem value_append (digits : List Nat) (d : Nat) :
    value (digits ++ [d]) = value digits * 10 + d := by
  simp [value]

def signed (negative : Bool) (n : Nat) : Int := if negative then -(n : Int) else n

/-- A leading sign, and the rest. -/
def splitSign : List Char → Bool × List Char
  | '-' :: rest => (true, rest)
  | '+' :: rest => (false, rest)
  | s => (false, s)

/-- Digits with single underscores between them, after a digit, and the rest of the text. Fails
where an underscore is not between two digits. -/
def moreDigits (digit? : Char → Option Nat) : List Char → Option (List Nat × List Char)
  | [] => some ([], [])
  | '_' :: c :: rest =>
    match digit? c with
    | some d => (moreDigits digit? rest).map fun (ds, more) => (d :: ds, more)
    | none => none
  | c :: rest =>
    match digit? c with
    | some d => (moreDigits digit? rest).map fun (ds, more) => (d :: ds, more)
    | none => if c = '_' then none else some ([], c :: rest)

/-- Digits that start with a digit. -/
def digitRun (digit? : Char → Option Nat) : List Char → Option (List Nat × List Char)
  | [] => none
  | c :: rest =>
    match digit? c with
    | some d => (moreDigits digit? rest).map fun (ds, more) => (d :: ds, more)
    | none => none

/-- Reads a numeral of the plain grammar, of any length. -/
def readPlain? (s : List Char) : Option (Bool × List Nat) :=
  let (negative, body) := match s with
    | '-' :: rest => (true, rest)
    | _ => (false, s)
  if body = [] then none else (body.mapM asciiDigit?).map (negative, ·)

/-- Reads a numeral of the free grammar. -/
def readFree (s : String) : Except NumeralError Int :=
  let (negative, body) := splitSign (trim isWhiteSpace s.toList)
  match digitRun decimalDigit? body with
  | none => .error (.malformed s)
  | some (digits, rest) =>
    if maxDigits < digits.length then .error (.tooManyDigits digits.length)
    else if rest = [] then .ok (signed negative (value digits))
    else .error (.malformed s)

/-! ### Settings -/

def dropPlus : List Char → List Char
  | '+' :: '-' :: rest => '+' :: '-' :: rest
  | '+' :: rest => rest
  | s => s

/-- Drops leading zeros, with underscores behind them, before a digit or a minus sign; keeps the
last of them at the end and before a point. Fails before any other character. -/
def dropZeros? : List Char → Option (List Char)
  | '0' :: rest =>
    let isZero := fun c => c == '0' || c == '_'
    let last := (rest.takeWhile isZero).getLastD '0'
    match rest.dropWhile isZero with
    | [] => some [last]
    | '.' :: more => some (last :: '.' :: more)
    | c :: more => if c.isDigit || c == '-' then some (c :: more) else none
  | c :: rest => if c.isDigit || c == '-' then some (c :: rest) else none
  | [] => none

/-- Drops a fraction of one or more zeros. -/
def dropZeroFraction (s : List Char) : List Char :=
  match cut? '.' s with
  | some (whole, '0' :: zeros) => if zeros.all (· == '0') then whole else s
  | _ => s

/-- Drops the underscores if each has other characters on both sides. -/
def dropUnderscores (s : List Char) : List Char :=
  if (pieces '_' s).all (!·.isEmpty) then s.filter (· != '_') else s

/-- Reads a numeral without leading zeros, behind a minus sign or none. -/
def readBare (s : String) (body : List Char) : Except NumeralError Int :=
  let (negative, digits) := match body with
    | '-' :: rest => (true, rest)
    | _ => (false, body)
  let run := digits.takeWhile Char.isDigit
  if run.head? == some '0' then if digits = ['0'] then .ok 0 else .error (.malformed s)
  else if maxDigits < run.length then .error (.tooManyDigits run.length)
  else if run = digits && run ≠ [] then .ok (signed negative (value (run.filterMap asciiDigit?)))
  else .error (.malformed s)

/-- Reads a numeral of the grammar of settings. -/
def readSetting (s : String) : Except NumeralError Int :=
  match dropZeros? (dropPlus (trim isWhiteSpace s.toList)) with
  | none => .error (.malformed s)
  | some body => readBare s (dropUnderscores (dropZeroFraction body))

end UserDirectory.Number

import UserDirectory.Text.CharClass
import UserDirectory.Text.Cut

/-!
# Environment files

A file of `KEY=value` lines. A key may follow the word `export` and may stand between single quotes.
A value may stand between single or double quotes, with escapes, and then may run over several
lines; otherwise it ends with its line, less a comment that follows a blank. A line that does not
read is skipped. A reference `${NAME}` or `${NAME:-default}` in a value stands for an earlier value
of the file or one of the environment. A byte order mark at the beginning does not count.
-/
namespace UserDirectory.Config.Dotenv

open Text

/-! ## Lines -/

/-- Every line break as one line feed. -/
def unifyBreaks : List Char → List Char
  | '\r' :: '\n' :: rest => '\n' :: unifyBreaks rest
  | '\r' :: rest => '\n' :: unifyBreaks rest
  | c :: rest => c :: unifyBreaks rest
  | [] => []

def isSpace (c : Char) : Bool := isBlank c && c != '\n'

def skipSpaces (s : List Char) : List Char := trimStart isSpace s

def skipLine (s : List Char) : List Char := (s.dropWhile (· != '\n')).drop 1

/-- Passes over a comment and the end of the line. -/
def finishLine? (s : List Char) : Option (List Char) :=
  match skipSpaces s with
  | [] => some []
  | '\n' :: rest => some rest
  | '#' :: rest => some (skipLine rest)
  | _ => none

/-! ## Values -/

/-- The text up to the closing mark, and the rest. A character after a backslash does not close. -/
def untilMark? (mark : Char) : List Char → Option (List Char × List Char)
  | [] => none
  | '\\' :: c :: rest => (untilMark? mark rest).map fun (text, more) => ('\\' :: c :: text, more)
  | c :: rest =>
    if c = mark then some ([], rest) else (untilMark? mark rest).map fun (text, more) =>
      (c :: text, more)

/-- The characters that the letters after a backslash stand for, between single quotes. -/
def singleEscape? : Char → Option Char
  | '\\' => some '\\'
  | '\x27' => some '\x27'
  | _ => none

/-- The same between double quotes. -/
def doubleEscape? : Char → Option Char
  | '\\' => some '\\'
  | '\x27' => some '\x27'
  | '"' => some '"'
  | 'a' => some '\x07'
  | 'b' => some '\x08'
  | 'f' => some '\x0c'
  | 'n' => some '\n'
  | 'r' => some '\r'
  | 't' => some '\t'
  | 'v' => some '\x0b'
  | _ => none

def unescape (escape? : Char → Option Char) : List Char → List Char
  | '\\' :: c :: rest =>
    match escape? c with
    | some x => x :: unescape escape? rest
    | none => '\\' :: unescape escape? (c :: rest)
  | c :: rest => c :: unescape escape? rest
  | [] => []

/-- Cuts a line before the blanks that precede its first comment. -/
def cutComment : List Char → List Char
  | [] => []
  | c :: rest =>
    if isBlank c && (trimStart isBlank rest).head? == some '#' then [] else c :: cutComment rest

/-- A value and the rest of the text after it. The blanks before the value count for a comment. -/
def value? (s : List Char) : Option (List Char × List Char) :=
  match skipSpaces s with
  | '\x27' :: rest => (untilMark? '\x27' rest).map fun (text, more) =>
    (unescape singleEscape? text, more)
  | '"' :: rest => (untilMark? '"' rest).map fun (text, more) => (unescape doubleEscape? text, more)
  | _ => some (trim isBlank (cutComment (s.takeWhile (· != '\n'))), s.dropWhile (· != '\n'))

/-! ## Bindings -/

/-- A key, and its value if an equals sign follows. -/
structure Binding where
  key : List Char
  value : Option (List Char)

def skipExport (s : List Char) : List Char :=
  match s with
  | 'e' :: 'x' :: 'p' :: 'o' :: 'r' :: 't' :: c :: rest => if isSpace c then skipSpaces rest else s
  | _ => s

/-- A key, or nothing before a comment, and the rest of the text. -/
def key? (s : List Char) : Option (Option (List Char) × List Char) :=
  match s with
  | '#' :: _ => some (none, s)
  | '\x27' :: rest =>
    match cut? '\x27' rest with
    | some (c :: key, more) => some (some (c :: key), more)
    | _ => none
  | _ =>
    let inKey := fun c => c != '=' && c != '#' && !isBlank c
    if s.takeWhile inKey = [] then none else some (some (s.takeWhile inKey), s.dropWhile inKey)

/-- The value after an equals sign, if there is one, and the rest. Fails with the text that does not
read. -/
def assigned (s : List Char) : Except (List Char) (Option (List Char) × List Char) :=
  match s with
  | '=' :: rest =>
    match value? rest with
    | some (value, more) => .ok (some value, more)
    | none => .error (skipSpaces rest)
  | _ => .ok (none, s)

/-- One binding or comment, and the text after its line. -/
def binding (s : List Char) : Option Binding × List Char :=
  let start := skipExport s
  match key? start with
  | none => (none, skipLine start)
  | some (key, afterKey) =>
    match assigned (skipSpaces afterKey) with
    | .error bad => (none, skipLine bad)
    | .ok (value, afterValue) =>
      match finishLine? afterValue with
      | none => (none, skipLine afterValue)
      | some rest => (key.map (⟨·, value⟩), rest)

/-- The bindings of a text in order. -/
def bindings (s : List Char) : List Binding :=
  match trimStart isBlank s with
  | [] => []
  | c :: more =>
    let (found, rest) := binding (c :: more)
    if rest.length < s.length then found.toList ++ bindings rest else found.toList
termination_by s.length

/-! ## References -/

/-- Values by name, in the order in which the names first came. -/
abbrev Assignments := List (String × Option String)

def assign (name : String) (value : Option String) : Assignments → Assignments
  | [] => [(name, value)]
  | (n, v) :: rest => if n = name then (n, value) :: rest else (n, v) :: assign name value rest

/-- The name and the default of a reference whose opening has been read, and the rest. -/
def reference? (s : List Char) : Option (List Char × List Char × List Char) :=
  let inName := fun c => c != '\x7d' && c != ':'
  match s.dropWhile inName with
  | '\x7d' :: rest => some (s.takeWhile inName, [], rest)
  | ':' :: '-' :: more => (cut? '\x7d' more).map fun (fallback, rest) =>
    (s.takeWhile inName, fallback, rest)
  | _ => none

/-- Puts values in place of references. -/
def expand (lookup : String → Option String) (s : List Char) : List Char :=
  match s with
  | '$' :: '\x7b' :: rest =>
    match reference? rest with
    | some (name, fallback, more) =>
      let found := ((lookup (String.ofList name)).map String.toList).getD fallback
      if more.length ≤ rest.length then found ++ expand lookup more else found
    | none => '$' :: expand lookup ('\x7b' :: rest)
  | c :: rest => c :: expand lookup rest
  | [] => []
termination_by s.length

/-- The value that a reference finds: of the file, which may be nothing, before that of the
environment. -/
def resolve (environment : List (String × String)) (known : Assignments) (name : String) :
    Option String :=
  match known.lookup name with
  | some value => some (value.getD "")
  | none => environment.lookup name

def assignments (environment : List (String × String)) (bs : List Binding) : Assignments :=
  bs.foldl (fun known b =>
    assign (String.ofList b.key)
      (b.value.map fun v => String.ofList (expand (resolve environment known) v)) known) []

def dropByteOrderMark : List Char → List Char
  | '\uFEFF' :: rest => rest
  | s => s

/-- The values that the text of a file assigns. -/
def read (environment : List (String × String)) (text : String) : Assignments :=
  assignments environment (bindings (unifyBreaks (dropByteOrderMark text.toList)))

end UserDirectory.Config.Dotenv

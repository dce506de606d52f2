import UserDirectory.Text.Utf8

/-!
# Name patterns

A pattern is a text in which a percent sign stands for any characters, an underscore for any one,
and a slash takes the character after it as it is. ASCII letters match in either case, the
noncharacters U+FFFE and U+FFFF match as the replacement character U+FFFD, and all other characters
match only themselves. A pattern ends before its first U+0000, and so does a text that is matched.
The pattern of a filter matches the names that contain it.
-/
namespace UserDirectory.Search.Pattern

open Text

inductive Element
  | anything
  | anyChar
  | char (c : Char)
deriving DecidableEq, Repr

/-- What a character is compared by. -/
def folded (c : Char) : Char := if c = '\uFFFE' ∨ c = '\uFFFF' then '\uFFFD' else c.toLower

/-- All before the first U+0000. -/
def upToNull (s : List Char) : List Char := s.takeWhile (· != '\x00')

/-- The elements that a pattern is written for. -/
def read : List Char → List Element
  | '/' :: c :: rest => .char c :: read rest
  | '%' :: rest => .anything :: read rest
  | '_' :: rest => .anyChar :: read rest
  | c :: rest => .char c :: read rest
  | [] => []

/-- Does some end of the text, the whole and the empty one included, pass? -/
def someEnd (passes : List Char → Bool) : List Char → Bool
  | [] => passes []
  | c :: rest => passes (c :: rest) || someEnd passes rest

def fits : List Element → List Char → Bool
  | [], s => s.isEmpty
  | .anything :: more, s => someEnd (fits more) s
  | .anyChar :: more, _ :: rest => fits more rest
  | .char x :: more, c :: rest => folded x == folded c && fits more rest
  | _ :: _, [] => false

/-! ## Patterns of filters -/

/-- The filter with a slash before each character that would not stand for itself. -/
def escape (s : List Char) : List Char :=
  s.flatMap fun c => if c = '/' ∨ c = '%' ∨ c = '_' then ['/', c] else [c]

/-- An escaped text stands for itself, whatever follows it. -/
theorem read_escape_append (s rest : List Char) :
    read (escape s ++ rest) = s.map .char ++ read rest := by
  induction s with
  | nil => rfl
  | cons c s ih =>
    have step : escape (c :: s) = (if c = '/' ∨ c = '%' ∨ c = '_' then ['/', c] else [c]) ++
      escape s := rfl
    by_cases special : c = '/' ∨ c = '%' ∨ c = '_'
    · simp [step, special, read, ih]
    · simp only [not_or] at special
      obtain ⟨slash, percent, underscore⟩ := special
      simp [step, slash, percent, underscore, read, ih]

/-- The pattern that is matched by texts that contain a filter. -/
def ofFilter (filter : String) : List Char :=
  '%' :: (escape filter.toList).map Char.toLower ++ ['%']

/-- Does a name in small letters match the pattern of a filter? -/
def holds (filter name : String) : Bool :=
  fits (read (upToNull (ofFilter filter))) (upToNull (name.toList.map Char.toLower))

/-- The largest number of bytes of a pattern that is tried, those behind U+0000 included. -/
def maxLength : Nat := 50000

def isTooLong (filter : String) : Bool := maxLength < (Utf8.encode (ofFilter filter)).length

end UserDirectory.Search.Pattern

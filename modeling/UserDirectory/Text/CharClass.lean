import UserDirectory.Text.ClassTable

/-!
# Character classes

The classes of characters that names, numerals and addresses are made of, and trimming by a class.
-/
namespace UserDirectory.Text

def isAlphanumeric (c : Char) : Bool := alphanumeric.holds c.toNat
def isPrintable (c : Char) : Bool := printable.holds c.toNat
def isMark (c : Char) : Bool := marks.holds c.toNat
def isWhiteSpace (c : Char) : Bool := whiteSpace.holds c.toNat

/-- White space and the four ASCII information separators. -/
def isBlank (c : Char) : Bool := isWhiteSpace c || (0x1C ≤ c.toNat && c.toNat ≤ 0x1F)

/-- What an unquoted name is made of: letters, numbers and the underscore. -/
def isWordChar (c : Char) : Bool := isAlphanumeric c || c == '_'

def isControl (c : Char) : Bool := c.toNat < 0x20 || c.toNat == 0x7F

def isAscii (c : Char) : Bool := c.toNat < 0x80

/-- The value of a digit of any decimal script. -/
def decimalDigit? (c : Char) : Option Nat :=
  (decimalZeros.find? fun first => first ≤ c.toNat && c.toNat < first + 10).map (c.toNat - ·)

/-- The value of an ASCII digit. -/
def asciiDigit? (c : Char) : Option Nat :=
  if c.isDigit then some (c.toNat - 0x30) else none

theorem decimalDigit?_lt {c : Char} {d : Nat} (h : decimalDigit? c = some d) : d < 10 := by
  simp only [decimalDigit?, Option.map_eq_some_iff] at h
  obtain ⟨first, found, rfl⟩ := h
  have := List.find?_some found
  simp only [Bool.and_eq_true, decide_eq_true_eq] at this
  omega

/-! ## Trimming -/

def trimStart (p : Char → Bool) (s : List Char) : List Char := s.dropWhile p

def trimEnd (p : Char → Bool) (s : List Char) : List Char := (s.reverse.dropWhile p).reverse

def trim (p : Char → Bool) (s : List Char) : List Char := trimEnd p (trimStart p s)

@[simp] theorem trim_nil (p : Char → Bool) : trim p [] = [] := rfl

end UserDirectory.Text

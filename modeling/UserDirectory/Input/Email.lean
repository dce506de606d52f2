import UserDirectory.Text.CharClass
import UserDirectory.Text.Cut
import UserDirectory.Text.NormalForm

/-!
# E-mail addresses

An address may stand alone or in angle brackets after a display name; blanks around it do not count.
It is a local part of dot-separated atoms and a domain name. The local part is written in its
composed normal form, the domain in small letters, and so is a local part whose normal form names a
role.
-/
namespace UserDirectory.Input.Email

open Text

/-- The largest number of characters that are looked at. -/
def maxTextLength : Nat := 2048

/-- The largest number of bytes in an address. -/
def maxAddressLength : Nat := 254

def maxDomainLength : Nat := 253
def maxLabelLength : Nat := 63

/-! ## Display names -/

/-- The marks that an atom or a name may hold. -/
def atomMarks : List Char := "!#$%&'*+-/=?^_`\x7b|\x7d~".toList

def isNameChar (c : Char) : Bool := isWordChar c || atomMarks.contains c || c == '.'

/-- What stands between angle brackets that enclose a whole text. -/
def bracketed? : List Char → Option (List Char)
  | '<' :: inner =>
    if 2 ≤ inner.length && inner.getLast? == some '>' then some inner.dropLast else none
  | _ => none

/-- The bracketed address after the last closing quote that has one. -/
def afterQuote? : List Char → Option (List Char)
  | [] => none
  | c :: rest =>
    match afterQuote? rest with
    | some address => some address
    | none => if c == '"' then bracketed? (trimStart isBlank rest) else none

/-- The bracketed address after a display name: words, or a text between double quotes. -/
def afterName? (s : List Char) : Option (List Char) :=
  match s with
  | '"' :: _ :: rest => afterQuote? rest
  | _ => bracketed? (s.dropWhile fun c => isNameChar c || isBlank c)

/-- The address in a text with or without a display name. -/
def strip (s : List Char) : List Char :=
  let inner := trim isBlank s
  trim isBlank ((afterName? inner).getD inner)

/-! ## Local parts -/

def isAtomChar (c : Char) : Bool :=
  if isAscii c then c.isAlphanum || atomMarks.contains c else isPrintable c

/-- Atoms with single points between them; the first character is no combining mark. -/
def isLocalPart (s : List Char) : Bool :=
  (pieces '.' s).all (fun atom => atom ≠ [] && atom.all isAtomChar) && !(s.head?.any isMark)

/-- Local parts that name a role, in which case does not count. -/
def roles : List String :=
  ["info", "marketing", "sales", "support", "abuse", "noc", "security", "postmaster", "hostmaster",
    "usenet", "news", "webmaster", "www", "uucp", "ftp"]

/-- A local part is written in its normal form, which has to be a local part too, and a normal form
that names a role in lower case. -/
def canonicalLocalPart? (s : List Char) : Option (List Char) :=
  let form := normalForm s
  let role := form.map Char.toLower
  if isLocalPart s && isLocalPart form then
    some (if roles.contains (String.ofList role) then role else form)
  else none

/-! ## Domains -/

def isLabelChar (c : Char) : Bool := c.isAlphanum || c == '-'

/-- Is the label reserved by two hyphens in the third and fourth place? The prefix of encoded labels
is not. -/
def isReserved : List Char → Bool
  | a :: b :: '-' :: '-' :: _ => !(a == 'x' && b == 'n')
  | _ => false

def isLabel (s : List Char) : Bool :=
  s ≠ [] && s.length ≤ maxLabelLength && s.all isLabelChar && s.head? ≠ some '-' &&
    s.getLast? ≠ some '-' && !isReserved s

/-- Top-level names under which no address can be reached. -/
def specialUse : List String := ["arpa", "invalid", "local", "localhost", "onion", "test"]

/-- Two labels or more, of which the last ends in a letter and is not of special use. -/
def isDomain (s : List Char) : Bool :=
  let labels := pieces '.' s
  let top := labels.getLastD []
  s.length ≤ maxDomainLength && labels.all isLabel && 2 ≤ labels.length &&
    top.getLast?.any Char.isAlpha && !specialUse.contains (String.ofList top)

/-! ## Addresses -/

def isShort (address : String) : Bool := address.utf8ByteSize ≤ maxAddressLength

/-- Reads an address and writes it in its canonical form; both have to be short. -/
def canonical? (s : String) : Option String :=
  let chars := s.toList
  if maxTextLength < chars.length || chars.any (fun c => c == '\n' || c == '\r') then none
  else match cut? '@' (strip chars) with
    | none => none
    | some (part, host) =>
      match canonicalLocalPart? part with
      | none => none
      | some canonical =>
        let domain := host.map Char.toLower
        let address := String.ofList (canonical ++ '@' :: domain)
        if isDomain domain && isShort (String.ofList (part ++ '@' :: host)) && isShort address
          then some address
        else none

end UserDirectory.Input.Email

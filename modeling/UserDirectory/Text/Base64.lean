/-!
# Base64 of the URL alphabet

Bytes are written in groups of three as four digits of six bits, without padding. Reading is
lenient: both alphabets are accepted, characters of neither are skipped, and a padding mark counts
only where at least two digits of a group have been read. Padding that completes its group ends the
text.
-/
namespace UserDirectory.Text.Base64

/-! ## Digits -/

def digit (v : Nat) : Char :=
  if v < 26 then .ofNat (0x41 + v)
  else if v < 52 then .ofNat (0x61 + (v - 26))
  else if v < 62 then .ofNat (0x30 + (v - 52))
  else if v = 62 then '-' else '_'

/-- The value of a digit of the URL alphabet or of the standard one. -/
def digitValue? (c : Char) : Option Nat :=
  if c.isUpper then some (c.toNat - 0x41)
  else if c.isLower then some (c.toNat - 0x61 + 26)
  else if c.isDigit then some (c.toNat - 0x30 + 52)
  else if c = '-' ∨ c = '+' then some 62
  else if c = '_' ∨ c = '/' then some 63
  else none

/-! ## Writing -/

def encode : List UInt8 → List Char
  | [] => []
  | [a] => [digit (a.toNat / 4), digit (a.toNat % 4 * 16)]
  | [a, b] =>
    [digit (a.toNat / 4), digit (a.toNat % 4 * 16 + b.toNat / 16), digit (b.toNat % 16 * 4)]
  | a :: b :: c :: rest =>
    digit (a.toNat / 4) :: digit (a.toNat % 4 * 16 + b.toNat / 16) ::
      digit (b.toNat % 16 * 4 + c.toNat / 64) :: digit (c.toNat % 64) :: encode rest

/-! ## Reading -/

/-- What has been read of a group: how many digits, and the bits that are not in a byte yet. -/
inductive Group
  | empty
  | one (bits : Nat)
  | two (bits : Nat)
  | three (bits : Nat)

def Group.digits : Group → Nat
  | .empty => 0
  | .one _ => 1
  | .two _ => 2
  | .three _ => 3

/-- The bytes that a digit finishes, and the group after it. -/
def Group.push (v : Nat) : Group → List UInt8 × Group
  | .empty => ([], .one v)
  | .one bits => ([.ofNat (bits * 4 + v / 16)], .two (v % 16))
  | .two bits => ([.ofNat (bits * 16 + v / 4)], .three (v % 4))
  | .three bits => ([.ofNat (bits * 64 + v)], .empty)

/-- Reads on within a group after a number of padding marks. -/
def scan (group : Group) (padding : Nat) : List Char → Option (List UInt8)
  | [] => if group.digits = 0 then some [] else none
  | c :: rest =>
    if c = '=' then
      if 2 ≤ group.digits then
        if 4 ≤ group.digits + (padding + 1) then some [] else scan group (padding + 1) rest
      else scan group padding rest
    else
      match digitValue? c with
      | none => scan group padding rest
      | some v => (scan (group.push v).2 0 rest).map ((group.push v).1 ++ ·)

def decode? (s : List Char) : Option (List UInt8) := scan .empty 0 s

end UserDirectory.Text.Base64

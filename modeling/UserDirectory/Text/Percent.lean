import UserDirectory.Text.Utf8

/-!
# Percent-encoding

A character that is not safe is written as its UTF-8 bytes, each a percent sign and two hexadecimal
digits. Reading keeps a percent sign without two such digits as it is, and puts U+FFFD in place of
broken UTF-8.
-/
namespace UserDirectory.Text.Percent

def hexDigit (v : Nat) : Char := if v < 10 then .ofNat (0x30 + v) else .ofNat (0x41 + (v - 10))

def hexValue? (c : Char) : Option Nat :=
  if c.isDigit then some (c.toNat - 0x30)
  else if 'A' ≤ c ∧ c ≤ 'F' then some (c.toNat - 0x41 + 10)
  else if 'a' ≤ c ∧ c ≤ 'f' then some (c.toNat - 0x61 + 10)
  else none

def encodeByte (b : UInt8) : List Char := ['%', hexDigit (b.toNat / 16), hexDigit (b.toNat % 16)]

def encode (safe : Char → Bool) (s : List Char) : List Char :=
  s.flatMap fun c => if safe c then [c] else (Utf8.encodeChar c).flatMap encodeByte

/-- The byte that two hexadecimal digits stand for. -/
def byte? (a b : Char) : Option UInt8 :=
  match hexValue? a, hexValue? b with
  | some high, some low => some (.ofNat (high * 16 + low))
  | _, _ => none

def decodeBytes : List Char → List UInt8
  | '%' :: a :: b :: rest =>
    match byte? a b with
    | some byte => byte :: decodeBytes rest
    | none => 0x25 :: decodeBytes (a :: b :: rest)
  | c :: rest => Utf8.encodeChar c ++ decodeBytes rest
  | [] => []

def decode (s : List Char) : List Char := Utf8.decodeLenient (decodeBytes s)

/-- Letters, digits and the four marks that never need encoding. -/
def isUnreserved (c : Char) : Bool :=
  c.isAlphanum || c == '_' || c == '.' || c == '-' || c == '~'

/-! ## Form encoding, where a plus sign stands for a blank -/

def encodeForm (s : List Char) : List Char :=
  (encode (fun c => isUnreserved c || c == ' ') s).map fun c => if c = ' ' then '+' else c

def decodeForm (s : List Char) : List Char := decode (s.map fun c => if c = '+' then ' ' else c)

end UserDirectory.Text.Percent

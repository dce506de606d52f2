/-!
# UTF-8

A text as bytes and back. The bytes are read one at a time: what has been read of an unfinished
character says how many bytes are missing and in which range the next one lies, so overlong forms,
surrogates and points beyond U+10FFFF break off at the first byte that shows them. Each broken part
is reported once, in its place. Strict reading refuses broken parts, lenient reading puts U+FFFD
there.
-/
namespace UserDirectory.Text.Utf8

/-! ## Writing -/

def encodeChar (c : Char) : List UInt8 :=
  let n := c.toNat
  if n < 0x80 then [.ofNat n]
  else if n < 0x800 then [.ofNat (0xC0 + n / 0x40), .ofNat (0x80 + n % 0x40)]
  else if n < 0x10000 then
    [.ofNat (0xE0 + n / 0x1000), .ofNat (0x80 + n / 0x40 % 0x40), .ofNat (0x80 + n % 0x40)]
  else
    [.ofNat (0xF0 + n / 0x40000), .ofNat (0x80 + n / 0x1000 % 0x40),
      .ofNat (0x80 + n / 0x40 % 0x40), .ofNat (0x80 + n % 0x40)]

def encode (s : List Char) : List UInt8 := s.flatMap encodeChar

@[simp] theorem encode_nil : encode [] = [] := rfl

@[simp] theorem encode_cons (c : Char) (s : List Char) :
    encode (c :: s) = encodeChar c ++ encode s := rfl

/-! ## Reading -/

/-- An unfinished character: its leading bits, the number of bytes that are missing, and the range
of the next one. -/
structure Unfinished where
  value : Nat
  missing : Nat
  low : Nat
  high : Nat

/-- What a byte begins. -/
inductive Start
  | char (c : Char)
  | lead (u : Unfinished)
  | stray

def start (b : UInt8) : Start :=
  let n := b.toNat
  if n < 0x80 then .char (.ofNat n)
  else if n < 0xC2 then .stray
  else if n < 0xE0 then .lead ⟨n - 0xC0, 1, 0x80, 0xBF⟩
  else if n < 0xF0 then
    .lead ⟨n - 0xE0, 2, if n = 0xE0 then 0xA0 else 0x80, if n = 0xED then 0x9F else 0xBF⟩
  else if n < 0xF5 then
    .lead ⟨n - 0xF0, 3, if n = 0xF0 then 0x90 else 0x80, if n = 0xF4 then 0x8F else 0xBF⟩
  else .stray

/-- Characters in order, and `none` for each broken part. -/
def scan : Option Unfinished → List UInt8 → List (Option Char)
  | none, [] => []
  | some _, [] => [none]
  | none, b :: rest =>
    match start b with
    | .char c => some c :: scan none rest
    | .lead u => scan (some u) rest
    | .stray => none :: scan none rest
  | some u, b :: rest =>
    if u.low ≤ b.toNat ∧ b.toNat ≤ u.high then
      let value := u.value * 0x40 + b.toNat % 0x40
      if u.missing = 1 then some (.ofNat value) :: scan none rest
      else scan (some ⟨value, u.missing - 1, 0x80, 0xBF⟩) rest
    else
      none :: match start b with
        | .char c => some c :: scan none rest
        | .lead u => scan (some u) rest
        | .stray => none :: scan none rest

def decode? (bytes : List UInt8) : Option (List Char) := (scan none bytes).mapM id

def decodeLenient (bytes : List UInt8) : List Char := (scan none bytes).map (·.getD '\uFFFD')

end UserDirectory.Text.Utf8

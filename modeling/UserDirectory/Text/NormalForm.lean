import UserDirectory.Text.NormalTable

/-!
# The composed normal form

Texts that are canonically equivalent have one composed normal form. Each character is taken apart,
the marks after a starter are put in ascending order of their combining classes, those of one class
as they stand, and then each starter takes up the marks that make a composite with it. Syllables of
Hangul are computed.
-/
namespace UserDirectory.Text

/-! ## Hangul -/

def syllableBase : Nat := 0xAC00
def leadBase : Nat := 0x1100
def vowelBase : Nat := 0x1161
/-- The code point before that of the first trailing consonant. -/
def trailBase : Nat := 0x11A7

/-- The letters of a syllable. -/
def syllableLetters? (n : Nat) : Option (List Nat) :=
  if syllableBase ≤ n ∧ n < syllableBase + 11172 then
    let index := n - syllableBase
    let trail := index % 28
    some ([leadBase + index / 588, vowelBase + index % 588 / 28] ++
      if trail = 0 then [] else [trailBase + trail])
  else none

/-- The syllable of a lead and a vowel, or of a syllable without trailing consonant and such a
consonant. -/
def syllable? (first second : Nat) : Option Nat :=
  if leadBase ≤ first ∧ first < leadBase + 19 ∧ vowelBase ≤ second ∧ second < vowelBase + 21 then
    some (syllableBase + ((first - leadBase) * 21 + (second - vowelBase)) * 28)
  else if syllableBase ≤ first ∧ first < syllableBase + 11172 ∧ (first - syllableBase) % 28 = 0 ∧
      trailBase < second ∧ second < trailBase + 28 then
    some (first + (second - trailBase))
  else none

/-! ## Taking apart -/

/-- What a code point stands for, if it is taken apart: one other code point, or two. -/
def parts? (n : Nat) : Option (List Nat) :=
  match (compositions.find? (·.composite == n)).or (lostComposites.find? (·.composite == n)) with
  | some c => some [c.first, c.second]
  | none =>
    match stands.find? fun run => run.1 ≤ n && n < run.1 + run.2.length with
    | some run => (run.2[n - run.1]?).map ([·])
    | none => none

/-- Takes the first of the parts apart again, down to a depth. -/
def takeApart : Nat → Nat → List Nat
  | 0, n => [n]
  | depth + 1, n =>
    match parts? n with
    | some (first :: rest) => takeApart depth first ++ rest
    | _ => [n]

/-- No character has parts at more than three depths. -/
def decompose (n : Nat) : List Nat :=
  if n < 0xC0 then [n] else (syllableLetters? n).getD (takeApart 3 n)

/-! ## Order of marks -/

def combiningClassIn : List (Nat × Nat × Nat) → Nat → Nat
  | [], _ => 0
  | (first, last, cls) :: rest, n =>
    if n < first then 0 else if n ≤ last then cls else combiningClassIn rest n

/-- Zero for a starter. -/
def combiningClass (n : Nat) : Nat := combiningClassIn combiningClasses n

/-- Puts a code point before the first one that it need not follow. -/
def placeMark (n : Nat) : List Nat → List Nat
  | [] => [n]
  | m :: rest =>
    if 0 < combiningClass m ∧ combiningClass m < combiningClass n then m :: placeMark n rest
    else n :: m :: rest

def orderMarks (s : List Nat) : List Nat := s.foldr placeMark []

theorem perm_placeMark (n : Nat) (s : List Nat) : (placeMark n s).Perm (n :: s) := by
  induction s with
  | nil => exact .refl _
  | cons m rest ih =>
    unfold placeMark
    split
    · exact (ih.cons m).trans (.swap n m rest)
    · exact .refl _

/-- Ordering takes nothing away and adds nothing. -/
theorem perm_orderMarks (s : List Nat) : (orderMarks s).Perm s := by
  induction s with
  | nil => exact .refl _
  | cons n rest ih => exact (perm_placeMark n _).trans (ih.cons n)

/-! ## Putting together -/

def composite? (first second : Nat) : Option Nat :=
  match syllable? first second with
  | some n => some n
  | none => (compositions.find? fun c => c.first == first && c.second == second).map (·.composite)

/-- A mark is out of reach behind one of its class or a higher one; the marks are given in
reverse. -/
def outOfReach (n : Nat) : List Nat → Bool
  | [] => false
  | last :: _ => combiningClass n ≤ combiningClass last

/-- Puts a text together that follows a starter and, in reverse, the marks that it has not taken
up. -/
def composeAfter (starter : Nat) (kept : List Nat) : List Nat → List Nat
  | [] => starter :: kept.reverse
  | n :: rest =>
    match if outOfReach n kept then none else composite? starter n with
    | some whole => composeAfter whole kept rest
    | none =>
      if combiningClass n = 0 then starter :: kept.reverse ++ composeAfter n [] rest
      else composeAfter starter (n :: kept) rest

/-- Puts a text together from its first starter on. -/
def compose : List Nat → List Nat
  | [] => []
  | n :: rest => if combiningClass n = 0 then composeAfter n [] rest else n :: compose rest

/-- The composed normal form of a text. -/
def normalForm (s : List Char) : List Char :=
  (compose (orderMarks (s.flatMap fun c => decompose c.toNat))).map Char.ofNat

end UserDirectory.Text

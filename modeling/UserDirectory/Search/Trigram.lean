import UserDirectory.Order.Ascending
import UserDirectory.Text.Case

/-!
# Trigrams

The words of a text are its longest runs of letters and numbers. Each word, in small letters and
with two blanks before it and one after it, gives its windows of three characters. The similarity of
two texts is the number of trigrams they share over the number of trigrams of either.
-/
namespace UserDirectory.Search

open Text

structure Trigram where
  first : Char
  second : Char
  third : Char
deriving DecidableEq, Repr

namespace Trigram

def text (t : Trigram) : String := String.ofList [t.first, t.second, t.third]

/-- A number that orders trigrams by their code points. -/
def key (t : Trigram) : Nat :=
  (t.first.toNat * 0x200000 + t.second.toNat) * 0x200000 + t.third.toNat

def le (a b : Trigram) : Bool := a.key ≤ b.key

end Trigram

/-! ## Words -/

/-- The run that a text begins with, and the words after it. -/
def leadingRun : List Char → List Char × List (List Char)
  | [] => ([], [])
  | c :: rest =>
    let (run, words) := leadingRun rest
    if isAlphanumeric c then (c :: run, words) else ([], if run = [] then words else run :: words)

def words (s : List Char) : List (List Char) :=
  let (run, words) := leadingRun s
  if run = [] then words else run :: words

/-! ## Windows -/

def windows : List Char → List Trigram
  | a :: b :: c :: rest => ⟨a, b, c⟩ :: windows (b :: c :: rest)
  | _ => []

def wordTrigrams (word : List Char) : List Trigram := windows (' ' :: ' ' :: word ++ [' '])

/-- The distinct trigrams of a text in ascending order. -/
def trigrams (s : String) : List Trigram :=
  Order.ascending Trigram.le ((words (lower s).toList).flatMap wordTrigrams)

theorem mem_trigrams {s : String} {t : Trigram} :
    t ∈ trigrams s ↔ ∃ w ∈ words (lower s).toList, t ∈ wordTrigrams w := by
  simp [trigrams]

/-! ## Similarity -/

/-- A part of a whole that is not empty. -/
structure Ratio where
  part : Nat
  whole : Nat
  whole_pos : 0 < whole
deriving DecidableEq, Repr

namespace Ratio

/-- Compares as fractions. -/
def le (a b : Ratio) : Bool := a.part * b.whole ≤ b.part * a.whole

/-- The nearest binary64 number. -/
def toFloat (r : Ratio) : Float := r.part.toFloat / r.whole.toFloat

end Ratio

def shared (a b : List Trigram) : Nat := (a.filter b.contains).length

/-- Nothing is shared of one where neither text has a trigram. -/
def similarity (a b : String) : Ratio :=
  let left := trigrams a
  let right := trigrams b
  let part := shared left right
  let whole := left.length + right.length - part
  if h : whole = 0 then ⟨0, 1, Nat.one_pos⟩ else ⟨part, whole, Nat.pos_of_ne_zero h⟩

/-- One less the similarity; the difference is rounded again. -/
def distance (a b : String) : Float := 1.0 - (similarity a b).toFloat

end UserDirectory.Search

import UserDirectory.Input.Value
import UserDirectory.Number.Numeral

/-!
# Page sizes

A policy has a default size for requests that name none, and a largest size. A requested size is cut
to the range from 1 to the largest size.
-/
namespace UserDirectory.Paging

open Number Input

structure Policy where
  defaultSize : Int := 100
  maxSize : Int := 1000
deriving DecidableEq, Repr

namespace Policy

def pageSize (p : Policy) : Option Int → Int
  | none => min p.defaultSize p.maxSize
  | some requested => max 1 (min requested p.maxSize)

theorem pageSize_some_pos (p : Policy) (n : Int) : 1 ≤ p.pageSize (some n) := by
  simp only [pageSize]
  omega

theorem pageSize_le {p : Policy} (h : 1 ≤ p.maxSize) (n : Option Int) :
    p.pageSize n ≤ p.maxSize := by
  cases n <;> simp only [pageSize] <;> omega

end Policy

/-! ## Requested sizes -/

/-- Why a value names no page size. -/
inductive SizeError
  | numeral (e : NumeralError)
  | infinite
  | undefined
  | notNumber (kind : String)
deriving DecidableEq, Repr

def SizeError.message : SizeError → String
  | .numeral e => e.message
  | .infinite => "cannot convert float infinity to integer"
  | .undefined => "cannot convert float NaN to integer"
  | .notNumber kind =>
    "int() argument must be a string, a bytes-like object or a real number, not \x27" ++
      kind ++ "\x27"

/-- Reads a page size: a number loses its fraction, a text is a numeral, null names no size. -/
def requestedSize : Value → Except SizeError (Option Int)
  | .null => .ok none
  | .bool b => .ok (some b.toInt)
  | .int n => .ok (some n)
  | .real (.infinite _) => .error .infinite
  | .real .undefined => .error .undefined
  | .real (.finite negative mantissa exponent) =>
    .ok (Binary64.finite negative mantissa exponent).truncate?
  | .text s => (readFree s).mapError .numeral |>.map some
  | v => .error (.notNumber v.kind)

end UserDirectory.Paging

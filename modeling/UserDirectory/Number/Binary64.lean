/-!
# Binary floating-point numbers

A binary64 number as the exact value it stands for, so that its whole part is an integer of any
size.
-/
namespace UserDirectory.Number

/-- A finite number is `mantissa * 2 ^ exponent`, with a sign. -/
inductive Binary64
  | finite (negative : Bool) (mantissa : Nat) (exponent : Int)
  | infinite (negative : Bool)
  | undefined
deriving DecidableEq, Repr

namespace Binary64

/-- Reads sign, exponent and fraction of the interchange format. -/
def ofBits (bits : UInt64) : Binary64 :=
  let n := bits.toNat
  let negative := n >>> 63 == 1
  let exponent := (n >>> 52) % 0x800
  let fraction := n % 0x10000000000000
  if exponent = 0x7FF then if fraction = 0 then .infinite negative else .undefined
  else if exponent = 0 then .finite negative fraction (-1074)
  else .finite negative (0x10000000000000 + fraction) ((exponent : Int) - 1075)

/-- The nearest number to a quotient of `n` and a power of two, at half a unit the even one. -/
def roundShift (n shift : Nat) : Nat :=
  let rest := n % (1 <<< shift)
  let floor := n >>> shift
  if 2 * rest < 1 <<< shift || (2 * rest == 1 <<< shift && floor % 2 == 0) then floor else floor + 1

/-- The nearest number to an integer, at half a unit the one with an even mantissa. -/
def ofInt (n : Int) : Binary64 :=
  let shift := n.natAbs.log2 - 52
  let mantissa := if shift = 0 then n.natAbs else roundShift n.natAbs shift
  if 1024 ≤ (mantissa <<< shift).log2 then .infinite (n < 0) else .finite (n < 0) mantissa shift

/-- The whole part of `mantissa * 2 ^ exponent`. -/
def wholePart (mantissa : Nat) (exponent : Int) : Nat :=
  (mantissa <<< exponent.toNat) >>> (-exponent).toNat

/-- Is `mantissa * 2 ^ exponent` a whole number? -/
def isWhole (mantissa : Nat) (exponent : Int) : Bool :=
  (mantissa <<< exponent.toNat) % (1 <<< (-exponent).toNat) == 0

/-- The number without its fraction, toward zero. -/
def truncate? : Binary64 → Option Int
  | .finite negative mantissa exponent =>
    some (if negative then -(wholePart mantissa exponent : Int) else wholePart mantissa exponent)
  | _ => none

/-- Does the number have a fraction other than zero? -/
def hasFraction : Binary64 → Bool
  | .finite _ mantissa exponent => !isWhole mantissa exponent
  | _ => false

/-- The greatest integer that is not above the number. -/
def floor? (x : Binary64) : Option Int :=
  match x with
  | .finite true _ _ => x.truncate?.map fun n => if x.hasFraction then n - 1 else n
  | _ => x.truncate?

end Binary64

end UserDirectory.Number

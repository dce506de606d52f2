import UserDirectory.Number.Binary64
import UserDirectory.Number.Numeral

/-!
# Shortest decimals

Among the decimals that are read back as a given binary64 number, the one with the fewest digits,
and of these the nearest. The decimals of one exponent are a grid; if any of them is read back, then
so is one of the two that enclose the number, hence grids are tried from the coarsest on and with
two decimals each.
-/
namespace UserDirectory.Number

/-- The number `digits * 10 ^ exponent`. -/
structure Decimal where
  digits : Nat
  exponent : Int
deriving DecidableEq, Repr

def powerOfTen (n : Nat) : Nat := value (1 :: List.replicate n 0)

/-- A number with the bounds of those that round to it, as fractions of one denominator. -/
structure Rounding where
  low : Nat
  middle : Nat
  high : Nat
  denominator : Nat
  /-- Do the bounds themselves round to the number? -/
  closed : Bool

namespace Rounding

/-- The least mantissa of the numbers with an exponent that is not the least one. -/
def leastMantissa : Nat := 0x10000000000000

/-- The bounds lie half a unit away; below the first number of an exponent the next one is at half a
unit. -/
def ofFinite (mantissa : Nat) (exponent : Int) : Rounding :=
  let below := if mantissa = leastMantissa && exponent ≠ -1074 then 1 else 2
  let up := exponent.toNat
  ⟨(4 * mantissa - below) <<< up, (4 * mantissa) <<< up, (4 * mantissa + 2) <<< up,
    4 <<< (-exponent).toNat, mantissa % 2 == 0⟩

/-- The exponent of the first digit of a number above zero. -/
def leading (r : Rounding) : Int :=
  if r.denominator ≤ r.middle then (natText (r.middle / r.denominator)).length - 1
  else -(natText (r.denominator / r.middle)).length

/-- The nearest decimal of an exponent that is read back, at the same distance the even one. -/
def onGrid? (r : Rounding) (exponent : Int) : Option Nat :=
  let up := powerOfTen (-exponent).toNat
  let unit := r.denominator * powerOfTen exponent.toNat
  let reads (n : Nat) : Bool :=
    if r.closed then r.low * up ≤ n * unit && n * unit ≤ r.high * up
    else r.low * up < n * unit && n * unit < r.high * up
  let floor := r.middle * up / unit
  let rest := 2 * (r.middle * up % unit)
  if !reads (floor + 1) then if reads floor then some floor else none
  else if reads floor && (rest < unit || (rest == unit && floor % 2 == 0)) then some floor
  else some (floor + 1)

/-- Seventeen digits are always enough. -/
def shortest? (r : Rounding) : Option Decimal :=
  (List.range 17).findSome? fun (n : Nat) =>
    let exponent := r.leading - n
    (r.onGrid? exponent).map (Decimal.mk · exponent)

end Rounding

/-! ## Texts -/

/-- Digits with the first of them at an exponent, positionally. -/
def positional (digits : List Char) (leading : Int) : List Char :=
  let zeros (n : Nat) := List.replicate n '0'
  if leading < 0 then "0.".toList ++ zeros (-leading - 1).toNat ++ digits
  else
    let width := leading.toNat + 1
    let fraction := digits.drop width
    digits.take width ++ zeros (width - digits.length) ++
      '.' :: if fraction = [] then ['0'] else fraction

/-- Digits with the first of them at an exponent, as a power of ten with two digits or more. -/
def scientific (digits : List Char) (leading : Int) : List Char :=
  digits.take 1 ++ (if digits.length ≤ 1 then [] else '.' :: digits.drop 1) ++
    'e' :: (if leading < 0 then '-' else '+') :: padded 2 leading.natAbs

/-- A number is written positionally if its first digit is at most sixteen places before the point
and at most four places behind it. -/
def Decimal.text (d : Decimal) : List Char :=
  let all := natText d.digits
  let digits := (all.reverse.dropWhile (· == '0')).reverse
  let leading := d.exponent + all.length - 1
  if -4 ≤ leading && leading < 16 then positional digits leading else scientific digits leading

/-- The shortest text of a number. -/
def Binary64.text : Binary64 → String
  | .undefined => "nan"
  | .infinite negative => if negative then "-inf" else "inf"
  | .finite negative mantissa exponent =>
    let body := if mantissa = 0 then "0.0".toList else
      ((Rounding.ofFinite mantissa exponent).shortest?.map Decimal.text).getD []
    String.ofList (if negative then '-' :: body else body)

end UserDirectory.Number

/-
# The shortest decimal of a binary64 number, and its text

A number is written with the fewest digits that still read back as the same number, and among
those with the digits nearest to it.  The search is direct: for one digit, then two, up to
seventeen, the two neighbours of the number on that decimal grid are read back with
`Binary64.ofDecimal?`; the first grid on which one of them gives the number wins.  Whatever the
search returns has been read back, except the last resort `exactDecimal`, which is the number's
own decimal expansion.

The text of a decimal (`Decimal.text`) is positional when the leading digit stands between
`10 ^ -5` and `10 ^ 15`, with at least one digit after the point, and scientific otherwise.
-/
import FieldRules.Binary64

namespace FieldRules

/-- The decimal number `digits * 10 ^ exponent`. -/
structure Decimal where
  digits : Nat
  exponent : Int
deriving DecidableEq

namespace Decimal

/-! ## 1. Text -/

/-- Moves the zeros at the end of the digits into the exponent; `fuel` bounds their number. -/
def trimmed : Nat → Nat → Int → Decimal
  | 0, digits, exponent => ⟨digits, exponent⟩
  | fuel + 1, digits, exponent =>
    if digits % 10 = 0 then trimmed fuel (digits / 10) (exponent + 1) else ⟨digits, exponent⟩

/-- The same number with a last digit that is not zero. -/
def trim (d : Decimal) : Decimal :=
  trimmed (Binary64.digitCount d.digits - 1) d.digits d.exponent

/-- The power of ten at which the leading digit stands. -/
def leading (d : Decimal) : Int := Binary64.digitCount d.digits + d.exponent - 1

/-- So many zeros. -/
def zeros (n : Nat) : List Char := List.replicate n '0'

/-- Positional notation with at least one digit after the point. -/
def positional (digits : List Char) (exponent : Int) : List Char :=
  if 0 ≤ exponent then digits ++ zeros exponent.toNat ++ ['.', '0']
  else
    let places := (-exponent).toNat
    if places < digits.length then
      digits.take (digits.length - places) ++ '.' :: digits.drop (digits.length - places)
    else '0' :: '.' :: (zeros (places - digits.length) ++ digits)

/-- The digits after the point of the mantissa, with the point; nothing when there are none. -/
def fraction : List Char → List Char
  | [] => []
  | rest => '.' :: rest

/-- Scientific notation; a positive exponent has its sign. -/
def scientific (digits : List Char) (leading : Int) : List Char :=
  digits.take 1 ++ fraction (digits.drop 1) ++ 'e' ::
    (if leading < 0 then '-' :: Nat.toDigits 10 (-leading).toNat
     else '+' :: Nat.toDigits 10 leading.toNat)

/-- The text of a decimal without a zero at the end of its digits. -/
def text (d : Decimal) : List Char :=
  let digits := Nat.toDigits 10 d.digits
  if -5 ≤ d.leading ∧ d.leading ≤ 15 then positional digits d.exponent
  else scientific digits d.leading

end Decimal

namespace Binary64

/-! ## 2. The search -/

/-- The power of ten of the leading digit of `num / den`, for a positive quotient. -/
def decimalLeading (num den : Nat) : Int :=
  if den ≤ num then (digitCount (num / den) : Int) - 1
  else -(digitCount ((den - 1) / num) : Int)

/-- Whether a decimal reads back as the absolute value of the number. -/
def readsBack (x : Binary64) (d : Decimal) : Bool :=
  ofDecimal? x.negative d.digits d.exponent = some x

/-- The neighbour of the number on the grid of multiples of `10 ^ exponent` that reads back, the
nearer one first; two equally near ones are tried from the even one. -/
def onGrid? (x : Binary64) (exponent : Int) : Option Decimal :=
  let (num, den) := unscale 10 x.magnitude.1 x.magnitude.2 exponent
  let low := num / den
  let near := roundHalfEven num den
  let far := if near = low then low + 1 else low
  if x.readsBack ⟨near, exponent⟩ then some ⟨near, exponent⟩
  else if x.readsBack ⟨far, exponent⟩ then some ⟨far, exponent⟩
  else none

/-- The number's own decimal expansion. -/
def exactDecimal (x : Binary64) : Decimal :=
  if 0 ≤ x.exponent then ⟨x.significand * Nat.pow 2 x.exponent.toNat, 0⟩
  else ⟨x.significand * Nat.pow 5 (-x.exponent).toNat, x.exponent⟩

/-- The first hit on the grids with `count`, `count + 1`, … digits, `fuel` of them. -/
def search (x : Binary64) (leading : Int) : Nat → Nat → Decimal
  | 0, _ => x.exactDecimal
  | fuel + 1, count =>
    match x.onGrid? (leading - count + 1) with
    | some d => d
    | none => search x leading fuel (count + 1)

/-- The decimal with the fewest digits that reads back as `x`, for `x` other than zero. -/
def shortest (x : Binary64) : Decimal :=
  (search x (decimalLeading x.magnitude.1 x.magnitude.2) 17 1).trim

/-- The text of a number in a document. -/
def text (x : Binary64) : String :=
  let digits := if x.isZero then ['0', '.', '0'] else x.shortest.text
  String.ofList (if x.negative then '-' :: digits else digits)

end Binary64

end FieldRules

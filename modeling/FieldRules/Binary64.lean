/-
# Finite binary64 numbers, exactly

A number of a document that has a fraction or an exponent is a binary64 number.  It is kept
here as what it stands for, a sign and a significand times a power of two, in the one form in
which each finite number (and each of the two zeros) is written once.  So equality of numbers
as records is equality of the 64 bits, and every question about them is one about `Nat`.

* `ofRatio?` rounds a quotient of naturals to the nearest binary64 number, ties to the even
  significand, and says `none` when that is beyond the largest finite number;
* `ofDecimal?` is the same for a decimal `digits * 10 ^ exponent`;
* `truncate` drops the fraction of a number, and `isWhole` says whether it has none.
-/

namespace FieldRules

/-- The significand and exponent of a finite number in its one written form: 53 bits, the
leading one set unless the exponent is the least there is. -/
def Binary64.Canonical (significand : Nat) (exponent : Int) : Prop :=
  significand < Nat.pow 2 53 ∧ -1074 ≤ exponent ∧ exponent ≤ 971 ∧
    (Nat.pow 2 52 ≤ significand ∨ exponent = -1074)

instance (significand : Nat) (exponent : Int) :
    Decidable (Binary64.Canonical significand exponent) := by
  unfold Binary64.Canonical
  infer_instance

/-- A finite binary64 number: `significand * 2 ^ exponent`, with a sign of its own so that zero
has two forms. -/
structure Binary64 where
  negative : Bool
  significand : Nat
  exponent : Int
  canonical : Binary64.Canonical significand exponent
deriving DecidableEq

namespace Binary64

/-! ## 1. Building numbers -/

/-- Zero, of either sign. -/
def zero (negative : Bool) : Binary64 := ⟨negative, 0, -1074, by decide⟩

/-- The number with these parts, when they are the parts of a finite number. -/
def ofParts? (negative : Bool) (significand : Nat) (exponent : Int) : Option Binary64 :=
  if h : Canonical significand exponent then some ⟨negative, significand, exponent, h⟩ else none

/-- The quotient rounded to the nearest natural, a half to the even one. -/
def roundHalfEven (num den : Nat) : Nat :=
  let low := num / den
  let twice := 2 * (num % den)
  if twice < den then low
  else if den < twice then low + 1
  else if low % 2 = 0 then low
  else low + 1

/-- The pair of naturals whose quotient is `num / den / base ^ exponent`. -/
def unscale (base num den : Nat) (exponent : Int) : Nat × Nat :=
  if 0 ≤ exponent then (num, den * base.pow exponent.toNat)
  else (num * base.pow (-exponent).toNat, den)

/-- The exponent at which `num / den` has a significand of 53 bits, or the least one. -/
def exponentFor (num den : Nat) : Int :=
  let guess : Int := max ((Nat.log2 num : Int) - Nat.log2 den - 53) (-1074)
  let (n, d) := unscale 2 num den guess
  if n / d < Nat.pow 2 53 then guess else guess + 1

/-- The binary64 number nearest to `num / den`, ties to the even significand; `none` beyond the
largest finite number. -/
def ofRatio? (negative : Bool) (num den : Nat) : Option Binary64 :=
  if num = 0 then some (zero negative)
  else
    let exponent := exponentFor num den
    let (n, d) := unscale 2 num den exponent
    let significand := roundHalfEven n d
    if significand < Nat.pow 2 53 then ofParts? negative significand exponent
    else ofParts? negative (Nat.pow 2 52) (exponent + 1)

/-- How many decimal digits a natural has; one for zero. -/
def digitCount (n : Nat) : Nat := (Nat.toDigits 10 n).length

/-- The binary64 number nearest to `digits * 10 ^ exponent`.  Sizes far outside the range of
binary64 are answered from the number of digits alone, so that no huge power is formed: below
`10 ^ -330` everything rounds to zero, and from `10 ^ 310` on nothing is finite. -/
def ofDecimal? (negative : Bool) (digits : Nat) (exponent : Int) : Option Binary64 :=
  let size : Int := digitCount digits + exponent
  if digits = 0 ∨ size < -330 then some (zero negative)
  else if 310 < size then none
  else if 0 ≤ exponent then ofRatio? negative (digits * Nat.pow 10 exponent.toNat) 1
  else ofRatio? negative digits (Nat.pow 10 (-exponent).toNat)

/-! ## 2. Reading numbers -/

/-- The absolute value as a quotient of naturals. -/
def magnitude (x : Binary64) : Nat × Nat :=
  if 0 ≤ x.exponent then (x.significand * Nat.pow 2 x.exponent.toNat, 1)
  else (x.significand, Nat.pow 2 (-x.exponent).toNat)

/-- Whether the number is one of the two zeros. -/
def isZero (x : Binary64) : Bool := x.significand = 0

/-- Equality of values: the two zeros are equal, and apart from them a number equals itself
alone. -/
def equal (x y : Binary64) : Bool := x.isZero && y.isZero || x = y

/-- The integer toward zero. -/
def truncate (x : Binary64) : Int :=
  let size : Int := x.magnitude.1 / x.magnitude.2
  if x.negative then -size else size

/-- Whether the number has no fraction. -/
def isWhole (x : Binary64) : Bool := x.magnitude.1 % x.magnitude.2 = 0

/-- The integer toward zero, held to the signed 64-bit range. -/
def toInt64 (x : Binary64) : Int :=
  if x.truncate < -Int.pow 2 63 then -Int.pow 2 63
  else if Int.pow 2 63 ≤ x.truncate then Int.pow 2 63 - 1
  else x.truncate

/-- Whether the absolute value is below the natural `bound`. -/
def below (x : Binary64) (bound : Nat) : Bool := x.magnitude.1 < bound * x.magnitude.2

/-! ## 3. Instances -/

example : ofDecimal? false 1 0 = ofParts? false (2 ^ 52) (-52) := by decide +kernel
example : ofDecimal? false 1 (-1) = ofParts? false 7205759403792794 (-56) := by decide +kernel
example : ofDecimal? false 5 (-324) = ofParts? false 1 (-1074) := by decide +kernel
example : ofDecimal? true 2 (-324) = some (zero true) := by decide +kernel
example : ofDecimal? false 18 307 = none := by decide +kernel
example : ofDecimal? false 17976931348623157 292 = ofParts? false (2 ^ 53 - 1) 971 := by
  decide +kernel

end Binary64

end FieldRules

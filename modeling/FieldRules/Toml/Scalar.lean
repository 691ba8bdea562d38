/-
# TOML numbers, dates and times

The values that are written without quotes and brackets, each read from the whole of its text:
integers in four bases with underscores between digits, floats, the special floats, and dates
and times, whose parts must be in range.  A date-time keeps its text in one spelling.
-/
import FieldRules.Toml

namespace FieldRules

namespace Toml

/-! ## 1. Digits -/

/-- The value of a digit of a base up to sixteen. -/
def digitValue? (base : Nat) (c : Char) : Option Nat :=
  let value? : Option Nat :=
    if '0' ≤ c ∧ c ≤ '9' then some (c.toNat - '0'.toNat)
    else if 'a' ≤ c ∧ c ≤ 'f' then some (c.toNat - 'a'.toNat + 10)
    else if 'A' ≤ c ∧ c ≤ 'F' then some (c.toNat - 'A'.toNat + 10)
    else none
  value?.filter (· < base)

/-- Whether a character is a digit of a base. -/
def isDigitOf (base : Nat) (c : Char) : Bool := (digitValue? base c).isSome

/-- The number that digits write. -/
def digitsValue (base : Nat) (cs : List Char) : Nat :=
  cs.foldl (fun sofar c => sofar * base + (digitValue? base c).getD 0) 0

/-- The digits of a text of digits with single underscores between them. -/
def group? (base : Nat) : List Char → Option (List Char)
  | [] => none
  | [c] => if isDigitOf base c then some [c] else none
  | c :: '_' :: rest => if isDigitOf base c then (group? base rest).map (c :: ·) else none
  | c :: rest => if isDigitOf base c then (group? base rest).map (c :: ·) else none

/-- Decimal digits with no zero before others. -/
def whole? (cs : List Char) : Option (List Char) :=
  match group? 10 cs with
  | some ('0' :: _ :: _) => none
  | digits => digits

/-- A text without its sign, and whether the sign is a minus. -/
def unsign : List Char → Bool × List Char
  | '-' :: rest => (true, rest)
  | '+' :: rest => (false, rest)
  | rest => (false, rest)

/-! ## 2. Numbers -/

/-- An integer of the signed 64-bit range. -/
def inRange? (n : Int) : Option Int :=
  if -Int.pow 2 63 ≤ n ∧ n < Int.pow 2 63 then some n else none

/-- An integer in any of the four bases; only decimal ones have a sign. -/
def integer? (cs : List Char) : Option Int :=
  match cs with
  | '0' :: 'x' :: rest => (group? 16 rest).bind fun ds => inRange? (digitsValue 16 ds)
  | '0' :: 'o' :: rest => (group? 8 rest).bind fun ds => inRange? (digitsValue 8 ds)
  | '0' :: 'b' :: rest => (group? 2 rest).bind fun ds => inRange? (digitsValue 2 ds)
  | _ =>
    let (negative, rest) := unsign cs
    (whole? rest).bind fun ds =>
      let n : Int := digitsValue 10 ds
      inRange? (if negative then -n else n)

/-- The value of a float with the given parts; beyond the finite ones only a negative float has
one, and it is not finite. -/
def floatOf? (negative : Bool) (whole fraction : List Char) (exponent : Int) :
    Option (Option Binary64) :=
  match Binary64.ofDecimal? negative (digitsValue 10 (whole ++ fraction))
      (exponent - fraction.length) with
  | some x => some (some x)
  | none => if negative then some none else none

/-- The exponent of a float. -/
def exponent? (cs : List Char) : Option Int :=
  let (negative, rest) := unsign cs
  (group? 10 rest).map fun ds =>
    let n : Int := digitsValue 10 ds
    if negative then -n else n

/-- A float with digits: it has a fraction or an exponent. -/
def digitFloat? (cs : List Char) : Option (Option Binary64) := do
  let (negative, rest) := unsign cs
  let isE := fun c => c = 'e' || c = 'E'
  let mantissa := rest.takeWhile fun c => !isE c
  let exponent ←
    match rest.dropWhile fun c => !isE c with
    | [] => some 0
    | _ :: digits => exponent? digits
  let whole ← whole? (mantissa.takeWhile (· ≠ '.'))
  let fraction ←
    match mantissa.dropWhile (· ≠ '.') with
    | [] => if mantissa.length = rest.length then none else some []
    | _ :: digits => group? 10 digits
  floatOf? negative whole fraction exponent

/-- A float; the infinities and not-a-number have no finite value. -/
def float? (cs : List Char) : Option (Option Binary64) :=
  match (unsign cs).2 with
  | ['i', 'n', 'f'] => some none
  | ['n', 'a', 'n'] => some none
  | _ => digitFloat? cs

/-! ## 3. Dates and times -/

/-- The number of two digits, if it is in range. -/
def two? (low high : Nat) (a b : Char) : Option Nat :=
  if a.isDigit && b.isDigit then
    let n := digitsValue 10 [a, b]
    if low ≤ n ∧ n ≤ high then some n else none
  else none

/-- How many days a month has. -/
def daysIn (year month : Nat) : Nat :=
  if month = 2 then
    if year % 4 = 0 ∧ (year % 100 ≠ 0 ∨ year % 400 = 0) then 29 else 28
  else if month = 4 ∨ month = 6 ∨ month = 9 ∨ month = 11 then 30
  else 31

/-- A date at the start of a text. -/
def date? : List Char → Option (List Char × List Char)
  | y₁ :: y₂ :: y₃ :: y₄ :: '-' :: m₁ :: m₂ :: '-' :: d₁ :: d₂ :: rest =>
    if [y₁, y₂, y₃, y₄].all Char.isDigit then
      (two? 1 12 m₁ m₂).bind fun month =>
        (two? 1 (daysIn (digitsValue 10 [y₁, y₂, y₃, y₄]) month) d₁ d₂).map fun _ =>
          ([y₁, y₂, y₃, y₄, '-', m₁, m₂, '-', d₁, d₂], rest)
    else none
  | _ => none

/-- The digits of a fraction of a second as they are kept: nine of them at most and no zeros at
the end. -/
def keptFraction (digits : List Char) : List Char :=
  let kept := ((digits.take 9).reverse.dropWhile (· = '0')).reverse
  if kept.isEmpty then [] else '.' :: kept

/-- The fraction of a second at the start of a text. -/
def secondFraction? : List Char → Option (List Char × List Char)
  | '.' :: rest =>
    let digits := rest.takeWhile Char.isDigit
    if digits.isEmpty then none else some (keptFraction digits, rest.dropWhile Char.isDigit)
  | rest => some ([], rest)

/-- A time of day at the start of a text. -/
def time? : List Char → Option (List Char × List Char)
  | h₁ :: h₂ :: ':' :: m₁ :: m₂ :: ':' :: s₁ :: s₂ :: rest =>
    if (two? 0 23 h₁ h₂).isSome && (two? 0 59 m₁ m₂).isSome && (two? 0 60 s₁ s₂).isSome then
      (secondFraction? rest).map fun (fraction, left) =>
        ([h₁, h₂, ':', m₁, m₂, ':', s₁, s₂] ++ fraction, left)
    else none
  | _ => none

/-- The distance from universal time, which ends the text; nothing for local time. -/
def offset? : List Char → Option (List Char)
  | [] => some []
  | ['Z'] => some ['Z']
  | ['z'] => some ['Z']
  | [sign, h₁, h₂, ':', m₁, m₂] =>
    if (sign = '+' || sign = '-') && (two? 0 23 h₁ h₂).isSome && (two? 0 59 m₁ m₂).isSome then
      let isZero := [h₁, h₂, m₁, m₂].all (· = '0')
      some [if isZero then '+' else sign, h₁, h₂, ':', m₁, m₂]
    else none
  | _ => none

/-- A date, a time, or both, as the whole of a text. -/
def dateTime? (cs : List Char) : Option (List Char) :=
  match date? cs with
  | some (date, []) => some date
  | some (date, delimiter :: rest) =>
    if delimiter = 'T' ∨ delimiter = 't' ∨ delimiter = ' ' then
      (time? rest).bind fun (time, left) => (offset? left).map fun o => date ++ 'T' :: (time ++ o)
    else none
  | none =>
    match time? cs with
    | some (time, []) => some time
    | _ => none

/-! ## 4. Any of them -/

/-- The value that a text without quotes and brackets writes. -/
def scalar? (cs : List Char) : Option Toml :=
  if cs = ['t', 'r', 'u', 'e'] then some (.bool true)
  else if cs = ['f', 'a', 'l', 's', 'e'] then some (.bool false)
  else
    match dateTime? cs with
    | some text => some (.dateTime (String.ofList text))
    | none =>
      match integer? cs with
      | some n => some (.integer n)
      | none => (float? cs).map .float

end Toml

end FieldRules

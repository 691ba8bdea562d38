/-
# Reading JSON text

`Json.read?` accepts exactly one value with blanks around it, by the grammar of RFC 8259: no
comments, no trailing commas, no leading zeros, no control characters in strings and no half of
a surrogate pair on its own.  Beyond the grammar it decides four things:

* a whole number of the signed or unsigned 64-bit range is an integer, every other number is
  binary64, and so is `-0`; a number beyond the finite ones is refused;
* arrays and objects nest at most `maxDepth` deep;
* a repeated name in an object keeps its first place and takes its last value;
* the order of the fields is kept.

Decimals are rounded to the nearest binary64 number.  Readers differ in this: one that scales the
digits by powers of ten in binary64 arithmetic is off by the last place for some decimals (`3e23`,
`51.248178375505404`), and refuses some that are just below the largest finite number
(`1.7976931348623158e308`).  So what is said of loading holds for every reader of documents
(`FileSource.parse`).

The readers of the parts return what they read and the text that is left.  The value reader
descends on `fuel`, and twice the length of the text is enough: of two steps down at least one
takes a character away.
-/
import FieldRules.Json
import FieldRules.OrderedMap

namespace FieldRules

namespace Json

/-- How deep arrays and objects may nest. -/
def maxDepth : Nat := 127

/-! ## 1. Characters -/

/-- The blanks that may stand between the parts of a text. -/
def isBlank (c : Char) : Bool := c = ' ' || c = '\t' || c = '\n' || c = '\r'

/-- The text without the blanks at its start. -/
def skipBlanks (cs : List Char) : List Char := cs.dropWhile isBlank

/-- The value of a hexadecimal digit. -/
def hexValue? (c : Char) : Option Nat :=
  if '0' ≤ c ∧ c ≤ '9' then some (c.toNat - '0'.toNat)
  else if 'a' ≤ c ∧ c ≤ 'f' then some (c.toNat - 'a'.toNat + 10)
  else if 'A' ≤ c ∧ c ≤ 'F' then some (c.toNat - 'A'.toNat + 10)
  else none

/-- The number that hexadecimal digits write. -/
def hexNumber? (cs : List Char) : Option Nat :=
  cs.foldl (fun sofar c => do return (← sofar) * 16 + (← hexValue? c)) (some 0)

/-- The number that decimal digits write. -/
def number (digits : List Char) : Nat :=
  digits.foldl (fun sofar c => sofar * 10 + (c.toNat - '0'.toNat)) 0

/-! ## 2. Strings -/

/-- The character that a backslash and one letter stand for. -/
def letterEscape? : Char → Option Char
  | '"' => some '"'
  | '\\' => some '\\'
  | '/' => some '/'
  | 'b' => some '\x08'
  | 'f' => some '\x0c'
  | 'n' => some '\n'
  | 'r' => some '\r'
  | 't' => some '\t'
  | _ => none

/-- The character that a surrogate pair stands for. -/
def pairChar (high low : Nat) : Char :=
  Char.ofNat (0x10000 + (high - 0xD800) * 0x400 + (low - 0xDC00))

/-- The rest of a string after its opening quote. -/
def readString? : List Char → Option (List Char × List Char)
  | [] => none
  | '"' :: rest => some ([], rest)
  | '\\' :: 'u' :: a :: b :: c :: d :: rest =>
    match hexNumber? [a, b, c, d] with
    | none => none
    | some unit =>
      if unit < 0xD800 ∨ 0xDFFF < unit then
        (readString? rest).map fun (s, left) => (Char.ofNat unit :: s, left)
      else if 0xDC00 ≤ unit then none
      else
        match rest with
        | '\\' :: 'u' :: e :: f :: g :: h :: rest =>
          match hexNumber? [e, f, g, h] with
          | none => none
          | some low =>
            if 0xDC00 ≤ low ∧ low ≤ 0xDFFF then
              (readString? rest).map fun (s, left) => (pairChar unit low :: s, left)
            else none
        | _ => none
  | '\\' :: c :: rest =>
    match letterEscape? c with
    | none => none
    | some c => (readString? rest).map fun (s, left) => (c :: s, left)
  | c :: rest =>
    if c.toNat < 0x20 then none
    else (readString? rest).map fun (s, left) => (c :: s, left)

/-! ## 3. Numbers -/

/-- A whole number: an integer when it fits 64 bits, else binary64. -/
def wholeNumber? (negative : Bool) (n : Nat) : Option Json :=
  if negative then
    if n = 0 then some (float (Binary64.zero true))
    else if n ≤ Nat.pow 2 63 then some (integer (-n))
    else (Binary64.ofDecimal? true n 0).map float
  else
    if n < Nat.pow 2 64 then some (integer n)
    else (Binary64.ofDecimal? false n 0).map float

/-- Decimal digits, at least one. -/
def readDigits? (cs : List Char) : Option (List Char × List Char) :=
  let digits := cs.takeWhile Char.isDigit
  if digits.isEmpty then none else some (digits, cs.dropWhile Char.isDigit)

/-- The digits after a point; none when there is no point. -/
def readFraction? : List Char → Option (List Char × List Char)
  | '.' :: rest => readDigits? rest
  | rest => some ([], rest)

/-- The exponent after its letter; `none` inside when there is no exponent. -/
def readExponent? : List Char → Option (Option Int × List Char)
  | c :: rest =>
    if c = 'e' ∨ c = 'E' then
      match rest with
      | '-' :: rest => (readDigits? rest).map fun (ds, left) => (some (-(number ds : Int)), left)
      | '+' :: rest => (readDigits? rest).map fun (ds, left) => (some (number ds), left)
      | rest => (readDigits? rest).map fun (ds, left) => (some (number ds), left)
    else some (none, c :: rest)
  | [] => some (none, [])

/-- A number without its sign. -/
def readUnsigned? (negative : Bool) (cs : List Char) : Option (Json × List Char) := do
  let (whole, rest) ← readDigits? cs
  if whole.length > 1 ∧ whole.head? = some '0' then none
  let (fraction, rest) ← readFraction? rest
  let (exponent, rest) ← readExponent? rest
  if fraction.isEmpty ∧ exponent.isNone then
    return (← wholeNumber? negative (number whole), rest)
  else
    let value ← Binary64.ofDecimal? negative (number (whole ++ fraction))
      (exponent.getD 0 - fraction.length)
    return (float value, rest)

/-- A number, which may have a minus sign. -/
def readNumber? : List Char → Option (Json × List Char)
  | '-' :: rest => readUnsigned? true rest
  | rest => readUnsigned? false rest

/-! ## 4. Values -/

/-- An object with the given fields, a repeated name written over. -/
def ofFields (fields : List (String × Json)) : Json :=
  object (OrderedMap.ofList fields).entries

mutual

/-- One value at the start of the text; `depth` containers may still be opened. -/
def readValue? : Nat → Nat → List Char → Option (Json × List Char)
  | 0, _, _ => none
  | fuel + 1, depth, cs =>
    match skipBlanks cs with
    | 'n' :: 'u' :: 'l' :: 'l' :: rest => some (null, rest)
    | 't' :: 'r' :: 'u' :: 'e' :: rest => some (bool true, rest)
    | 'f' :: 'a' :: 'l' :: 's' :: 'e' :: rest => some (bool false, rest)
    | '"' :: rest => (readString? rest).map fun (s, left) => (string (String.ofList s), left)
    | '[' :: rest =>
      match depth with
      | 0 => none
      | depth + 1 =>
        match skipBlanks rest with
        | ']' :: rest => some (array [], rest)
        | rest => (readItems? fuel depth rest).map fun (items, left) => (array items, left)
    | '\x7b' :: rest =>
      match depth with
      | 0 => none
      | depth + 1 =>
        match skipBlanks rest with
        | '\x7d' :: rest => some (ofFields [], rest)
        | rest => (readFields? fuel depth rest).map fun (fields, left) => (ofFields fields, left)
    | rest => readNumber? rest

/-- The items of an array, at least one, and its end. -/
def readItems? : Nat → Nat → List Char → Option (List Json × List Char)
  | 0, _, _ => none
  | fuel + 1, depth, cs =>
    match readValue? fuel depth cs with
    | none => none
    | some (item, rest) =>
      match skipBlanks rest with
      | ']' :: rest => some ([item], rest)
      | ',' :: rest => (readItems? fuel depth rest).map fun (items, left) => (item :: items, left)
      | _ => none

/-- The fields of an object, at least one, and its end. -/
def readFields? : Nat → Nat → List Char → Option (List (String × Json) × List Char)
  | 0, _, _ => none
  | fuel + 1, depth, cs =>
    match skipBlanks cs with
    | '"' :: rest =>
      match readString? rest with
      | none => none
      | some (name, rest) =>
        match skipBlanks rest with
        | ':' :: rest =>
          match readValue? fuel depth rest with
          | none => none
          | some (value, rest) =>
            let field := (String.ofList name, value)
            match skipBlanks rest with
            | '\x7d' :: rest => some ([field], rest)
            | ',' :: rest =>
              (readFields? fuel depth rest).map fun (fields, left) => (field :: fields, left)
            | _ => none
        | _ => none
    | _ => none

end

/-- The value that a text writes, if it writes one. -/
def read? (text : String) : Option Json :=
  let cs := text.toList
  match readValue? (2 * cs.length + 2) maxDepth cs with
  | some (value, rest) => if (skipBlanks rest).isEmpty then some value else none
  | none => none

end Json

end FieldRules

/-
# The compact text of a JSON value

`Json.text` writes a value without blanks, the fields of an object in their order.  In a string
the quote, the backslash and the characters below the blank are escaped, the usual five of them
by a letter and the rest by four hexadecimal digits; every other character stands for itself.
-/
import FieldRules.Binary64.Shortest
import FieldRules.Json

namespace FieldRules

namespace Json

/-! ## 1. Strings -/

/-- The lower-case hexadecimal digit of a number below sixteen. -/
def hexDigit (n : Nat) : Char := Nat.digitChar n

/-- One character inside a quoted string. -/
def escaped (c : Char) : List Char :=
  match c with
  | '"' => ['\\', '"']
  | '\\' => ['\\', '\\']
  | '\x08' => ['\\', 'b']
  | '\x0c' => ['\\', 'f']
  | '\n' => ['\\', 'n']
  | '\r' => ['\\', 'r']
  | '\t' => ['\\', 't']
  | _ =>
    if c.toNat < 0x20 then ['\\', 'u', '0', '0', hexDigit (c.toNat / 16), hexDigit (c.toNat % 16)]
    else [c]

/-- A string between quotes. -/
def quoted (s : String) : List Char := '"' :: (s.toList.flatMap escaped ++ ['"'])

/-! ## 2. Values -/

mutual

/-- The characters of a value's text. -/
def chars : Json → List Char
  | null => ['n', 'u', 'l', 'l']
  | bool true => ['t', 'r', 'u', 'e']
  | bool false => ['f', 'a', 'l', 's', 'e']
  | integer value => (toString value).toList
  | float value => value.text.toList
  | string value => quoted value
  | array items => '[' :: (itemsChars items ++ [']'])
  | object fields => '\x7b' :: (fieldsChars fields ++ ['\x7d'])

/-- Items separated by commas. -/
def itemsChars : List Json → List Char
  | [] => []
  | [item] => chars item
  | item :: rest => chars item ++ ',' :: itemsChars rest

/-- Fields separated by commas. -/
def fieldsChars : List (String × Json) → List Char
  | [] => []
  | [(name, value)] => quoted name ++ ':' :: chars value
  | (name, value) :: rest => quoted name ++ ':' :: (chars value ++ ',' :: fieldsChars rest)

end

/-- The compact text of a value. -/
def text (j : Json) : String := String.ofList j.chars

end Json

end FieldRules

/-
# Quoted text

A quoted text stands between double quotes.  The quote, the backslash and the usual blanks are
escaped by a letter; a character that does not show by itself is written as its number; a
byte that is no part of a character is written as two hexadecimal digits.
-/
import FieldRules.Text.Hidden
import FieldRules.Text.Utf8

namespace FieldRules

namespace Quoted

/-! ## 1. Characters and bytes -/

/-- One character inside quotes. -/
def character (c : Char) : List Char :=
  match c with
  | '"' => ['\\', '"']
  | '\\' => ['\\', '\\']
  | '\x00' => ['\\', '0']
  | '\t' => ['\\', 't']
  | '\r' => ['\\', 'r']
  | '\n' => ['\\', 'n']
  | _ =>
    if Hidden.isHidden c then '\\' :: 'u' :: '\x7b' :: (Nat.toDigits 16 c.toNat ++ ['\x7d'])
    else [c]

/-- One byte inside quotes, as two upper-case digits. -/
def byte (b : UInt8) : List Char :=
  ['\\', 'x', (Nat.digitChar (b.toNat / 16)).toUpper, (Nat.digitChar (b.toNat % 16)).toUpper]

/-- One piece of a text inside quotes. -/
def piece : Utf8.Piece → List Char
  | .char c => character c
  | .bad bytes => bytes.flatMap byte

/-! ## 2. Texts -/

/-- A text between quotes. -/
def text (s : String) : String := String.ofList ('"' :: (s.toList.flatMap character ++ ['"']))

/-- Bytes between quotes, read as text as far as they are. -/
def bytes (bs : List UInt8) : String :=
  String.ofList ('"' :: ((Utf8.pieces bs).flatMap piece ++ ['"']))

example : bytes [0xFF, 0x2E, 0x6A] = "\"\\xFF.j\"" := by decide +kernel
example : text "a\"b'\n" = "\"a\\\"b'\\n\"" := by decide +kernel

end Quoted

end FieldRules

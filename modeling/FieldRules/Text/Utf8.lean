/-
# Bytes as text

Names and contents of files are bytes that usually, but not always, are UTF-8 text.  `Utf8.pieces`
takes bytes apart into characters and stretches of bytes that begin no character: such a stretch
is the longest beginning of a well-formed character, or else a single byte.  From the pieces a
text is read strictly (`decode?`) or with one replacement character for each bad stretch
(`display`).
-/

namespace FieldRules

namespace Utf8

/-! ## 1. Pieces -/

/-- A character, or a stretch of bytes that is none. -/
inductive Piece where
  | char (c : Char)
  | bad (bytes : List UInt8)
deriving DecidableEq

/-- How many bytes a character has that begins with `first`; one for a byte that begins none. -/
def size (first : UInt8) : Nat :=
  if first < 0xC2 then 1
  else if first < 0xE0 then 2
  else if first < 0xF0 then 3
  else if first < 0xF5 then 4
  else 1

/-- Whether a byte is one of those that continue characters. -/
def continues (b : UInt8) : Bool := 0x80 ≤ b && b ≤ 0xBF

/-- Whether `b` goes on with the bytes so far: overlong forms, surrogates and numbers beyond the
last character are left out by what may stand second. -/
def follows (sofar : List UInt8) (b : UInt8) : Bool :=
  match sofar with
  | [] => false
  | [first] =>
    if first = 0xE0 then 0xA0 ≤ b && b ≤ 0xBF
    else if first = 0xED then 0x80 ≤ b && b ≤ 0x9F
    else if first = 0xF0 then 0x90 ≤ b && b ≤ 0xBF
    else if first = 0xF4 then 0x80 ≤ b && b ≤ 0x8F
    else continues b
  | _ => continues b

/-- The number of a character of several bytes. -/
def number : List UInt8 → Nat
  | [] => 0
  | [a] => a.toNat
  | [a, b] => a.toNat % 32 * 64 + b.toNat % 64
  | [a, b, c] => (a.toNat % 16 * 64 + b.toNat % 64) * 64 + c.toNat % 64
  | a :: b :: c :: d :: _ =>
    ((a.toNat % 8 * 64 + b.toNat % 64) * 64 + c.toNat % 64) * 64 + d.toNat % 64

/-- The piece that a full number of bytes makes. -/
def finished : List UInt8 → Piece
  | [a] => if a < 0x80 then .char (Char.ofNat a.toNat) else .bad [a]
  | bytes => .char (Char.ofNat (number bytes))

/-- The pieces of a text of which the bytes `sofar` are an unfinished character. -/
def scan (sofar : List UInt8) : List UInt8 → List Piece
  | [] => if sofar.isEmpty then [] else [.bad sofar]
  | b :: rest =>
    let goesOn := follows sofar b
    let ended := if goesOn || sofar.isEmpty then [] else [Piece.bad sofar]
    let current := if goesOn then sofar ++ [b] else [b]
    if current.length < size (current.headD b) then ended ++ scan current rest
    else ended ++ finished current :: scan [] rest

/-- The characters and the bad stretches of bytes. -/
def pieces (bytes : List UInt8) : List Piece := scan [] bytes

/-! ## 2. Texts -/

/-- The characters of pieces that are all characters. -/
def characters? : List Piece → Option (List Char)
  | [] => some []
  | .char c :: rest => (characters? rest).map (c :: ·)
  | .bad _ :: _ => none

/-- The text that bytes write, if they write one. -/
def decode? (bytes : List UInt8) : Option String := (characters? (pieces bytes)).map String.ofList

/-- No byte is passed over: only where there are none are there no pieces. -/
theorem eq_nil_of_scan_eq_nil : ∀ {bytes sofar : List UInt8}, scan sofar bytes = [] →
    sofar = [] ∧ bytes = []
  | [], sofar, h => by
    cases sofar with
    | nil => exact ⟨rfl, rfl⟩
    | cons b rest => simp [scan] at h
  | b :: rest, sofar, h => by
    have hcurrent : (if follows sofar b then sofar ++ [b] else [b]) ≠ [] := by
      split <;> simp
    rw [scan] at h
    generalize (if follows sofar b then sofar ++ [b] else [b]) = current at h hcurrent
    by_cases hshort : current.length < size (current.headD b)
    · rw [if_pos hshort] at h
      exact absurd (eq_nil_of_scan_eq_nil (List.append_eq_nil_iff.mp h).2).1 hcurrent
    · rw [if_neg hshort] at h
      cases (List.append_eq_nil_iff.mp h).2

/-- Only no bytes write the empty text. -/
theorem eq_nil_of_decode?_eq_empty {bytes : List UInt8} (h : decode? bytes = some "") :
    bytes = [] := by
  obtain ⟨cs, hcs, hempty⟩ := Option.map_eq_some_iff.mp h
  have hnil : cs = [] := by simpa using hempty
  subst hnil
  have hpieces : pieces bytes = [] := by
    cases hp : pieces bytes with
    | nil => rfl
    | cons piece rest => cases piece <;> simp [hp, characters?] at hcs
  exact (eq_nil_of_scan_eq_nil hpieces).2

/-- The character shown for a piece. -/
def shown : Piece → Char
  | .char c => c
  | .bad _ => '\uFFFD'

/-- The text that bytes are shown as. -/
def display (bytes : List UInt8) : String := String.ofList ((pieces bytes).map shown)

/-- The bytes of a text. -/
def encode (text : String) : List UInt8 := text.toUTF8.toList

example : decode? [0x61, 0xC3, 0xA9] = some "aé" := by decide +kernel
example : decode? [0xED, 0xA0, 0x80] = none := by decide +kernel
example : display [0xFE, 0xE2, 0x82, 0x41] = "\uFFFD\uFFFDA" := by decide +kernel

end Utf8

end FieldRules

/-
# Clauses from string patterns

A pattern is a regular expression that the values of a string property must match.  Three
patterns have rules of their own.  Of any other, what is left without its anchors and its open
ends tells the form: if that begins with a letter the pattern is read as a list of beginnings,
separated by bars, and otherwise the pattern is kept as it is.
-/
import FieldRules.Clause

namespace FieldRules

namespace Pattern

/-! ## 1. Taking a pattern apart -/

/-- The text without its start anchors. -/
def dropAnchors (cs : List Char) : List Char := cs.filter (· ≠ '^')

/-- The text without its open ends, found from left to right and not overlapping. -/
def dropOpenEnds : List Char → List Char
  | '.' :: '*' :: '$' :: rest => dropOpenEnds rest
  | c :: rest => c :: dropOpenEnds rest
  | [] => []

/-- The pieces between the separators, empty ones too. -/
def splitAt (separator : Char) : List Char → List (List Char)
  | [] => [[]]
  | c :: rest =>
    if c = separator then [] :: splitAt separator rest
    else
      match splitAt separator rest with
      | [] => [[c]]
      | piece :: pieces => (c :: piece) :: pieces

/-- What is left of a pattern without its anchors and open ends. -/
def stripped (pattern : String) : List Char := dropOpenEnds (dropAnchors pattern.toList)

/-- Whether a text begins with a letter from A to Z of either case. -/
def beginsWithLetter : List Char → Bool
  | c :: _ => c.isAlpha
  | [] => false

/-! ## 2. The clause of a pattern -/

/-- Letters and marks only. -/
def alpha : String := "^[\\pL\\pM]+$"

/-- Letters, marks, digits, dashes and underscores only. -/
def alphaDash : String := "^[\\pL\\pM\\pN_-]+$"

/-- Letters, marks and digits only. -/
def alphaNum : String := "^[\\pL\\pM\\pN]+$"

/-- The clause of a pattern. -/
def clause (pattern : String) : Clause :=
  if pattern = alpha then ⟨"alpha", []⟩
  else if pattern = alphaDash then ⟨"alpha_dash", []⟩
  else if pattern = alphaNum then ⟨"alpha_num", []⟩
  else if beginsWithLetter (stripped pattern) then
    ⟨"starts_with", (splitAt '|' (stripped pattern)).map String.ofList⟩
  else ⟨"regex", [pattern]⟩

example : (clause "^one|two.*$").text = "starts_with:one,two" := by decide +kernel
example : (clause "^[A-C]+$").text = "regex:^[A-C]+$" := by decide +kernel

end Pattern

end FieldRules

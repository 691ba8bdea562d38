/-
# Clauses: the rules of a property as they are written

A clause is the name of a rule and its parameters.  On the wire it is one text: the name, a
colon before the first parameter and a comma before each other one (`Clause.text`).  A JSON
value becomes a parameter by `Json.parameter`.
-/
import FieldRules.Json.Printer

namespace FieldRules

/-! ## 1. Parameters -/

/-- The integer that a float is written as in a parameter: that of a float without a fraction
whose absolute value is below `10 ^ 15`. -/
def Binary64.parameterInteger? (x : Binary64) : Option Int :=
  if x.isWhole && x.below (Nat.pow 10 15) then some x.toInt64 else none

/-- The parameter that a value is written as: a string is its own text, a float without a
fraction looks like an integer, true is `1`, false and null are empty, and everything else has
its compact JSON text. -/
def Json.parameter : Json → String
  | .null => ""
  | .bool true => "1"
  | .bool false => ""
  | .integer value => toString value
  | .float value =>
    match value.parameterInteger? with
    | some n => toString n
    | none => value.text
  | .string value => value
  | .array items => (Json.array items).text
  | .object fields => (Json.object fields).text

/-! ## 2. Clauses -/

/-- A rule with its parameters, as it is handed to a validator. -/
structure Clause where
  name : String
  params : List String
deriving DecidableEq

namespace Clause

/-- The text of the parameters after the first. -/
def furtherParams : List String → String
  | [] => ""
  | param :: rest => "," ++ param ++ furtherParams rest

/-- The text of a clause on the wire. -/
def text (c : Clause) : String :=
  match c.params with
  | [] => c.name
  | param :: rest => c.name ++ ":" ++ param ++ furtherParams rest

/-- The clause of a field that must be there. -/
def required : Clause := ⟨"required", []⟩

example : text ⟨"between", ["5", "10"]⟩ = "between:5,10" := by decide +kernel
example : text ⟨"in", []⟩ = "in" := rfl
example : text ⟨"in", [""]⟩ = "in:" := by decide +kernel

end Clause

end FieldRules

/-
# The kinds of rules

There are nineteen kinds of rules.  Each has an identifier, no two the same
(`identifier_injective`), from which the kind can be told (`ofIdentifier?`).  A list of kinds is
put in order by identifier with repetitions dropped (`Rule.inOrder`).  `Rule.all` is every kind
in that order, and it is the order in which the clauses of a property are written.
-/

namespace FieldRules

/-- The kinds of rules, in the order in which they are registered. -/
inductive Rule where
  | numeric | date | oneOf | min | max | email | between | regex | ipAddress | multipleOf
  | dateFormat | url | boolean | array | distinct | image | noneOf | notRegex | size
deriving DecidableEq

namespace Rule

/-! ## 1. Identifiers -/

/-- The identifier that a kind is ordered by. -/
def identifier : Rule → String
  | array => "ArrayRule"
  | between => "Between"
  | boolean => "Boolean"
  | date => "Date"
  | dateFormat => "DateFormat"
  | distinct => "Distinct"
  | email => "Email"
  | image => "Image"
  | oneOf => "In"
  | ipAddress => "IpAddress"
  | max => "Max"
  | min => "Min"
  | multipleOf => "MultipleOf"
  | noneOf => "NotIn"
  | notRegex => "NotRegex"
  | numeric => "Numeric"
  | regex => "Regex"
  | size => "Size"
  | url => "Url"

/-- The kinds as they are registered; their order here shows nowhere. -/
def registered : List Rule :=
  [numeric, date, oneOf, min, max, email, between, regex, ipAddress, multipleOf, dateFormat, url,
    boolean, array, distinct, image, noneOf, notRegex, size]

/-- The kind that an identifier stands for. -/
def ofIdentifier? (identifier : String) : Option Rule :=
  registered.find? fun rule => rule.identifier = identifier

theorem ofIdentifier?_identifier (rule : Rule) : ofIdentifier? rule.identifier = some rule := by
  cases rule <;> decide +kernel

/-- No two kinds have the same identifier. -/
theorem identifier_injective {a b : Rule} (h : a.identifier = b.identifier) : a = b := by
  have ha := ofIdentifier?_identifier a
  rw [h, ofIdentifier?_identifier b] at ha
  exact (Option.some.inj ha).symm

/-! ## 2. Order -/

/-- Puts a kind into a list ordered by identifier, unless it is there. -/
def insertInOrder (rule : Rule) : List Rule → List Rule
  | [] => [rule]
  | other :: rest =>
    if rule.identifier < other.identifier then rule :: other :: rest
    else if rule = other then other :: rest
    else other :: insertInOrder rule rest

/-- The kinds of a list, each once, ordered by identifier. -/
def inOrder : List Rule → List Rule
  | [] => []
  | rule :: rest => insertInOrder rule (inOrder rest)

/-- Every kind, ordered by identifier. -/
def all : List Rule := inOrder registered

example : all = [array, between, boolean, date, dateFormat, distinct, email, image, oneOf,
    ipAddress, max, min, multipleOf, noneOf, notRegex, numeric, regex, size, url] := by
  decide +kernel

end Rule

end FieldRules

/-
# Which rules a property has

Each kind of rule has a check of its own (`Rule.applies`), which looks at the type of the property
when it needs it and fails on a property without one.  Two kinds ask only for the listed values and
never look.  `Rule.clause` writes the clause of a kind that applies, and `Rule.evaluate` joins the
two: no clause when the kind does not apply.

* A sized type has bounds under keywords of its own.  Different bounds make `min`, `max` and,
  when both are there, `between`; two equal bounds make `size` alone.
* A `format` or a content keyword counts for strings only, `uniqueItems` for arrays only and
  `multipleOf` for numbers only.
* Listed values and patterns are asserted, or denied under a `not`.
-/
import FieldRules.Property
import FieldRules.Rule
import FieldRules.Rule.Pattern

namespace FieldRules

/-! ## 1. Bounds -/

/-- The lower and the upper bound of a property. -/
structure Bounds where
  low : Option Json
  high : Option Json

namespace Bounds

/-- The keywords under which a type has its bounds. -/
def keywords (type : String) : Keyword × Keyword :=
  if type = "string" then (.minLength, .maxLength)
  else if type = "array" then (.minItems, .maxItems)
  else (.minimum, .maximum)

/-- The bounds of a property under the keywords of a type. -/
def of (p : Property) (type : String) : Bounds :=
  ⟨p.option? (keywords type).1, p.option? (keywords type).2⟩

/-- Whether the bounds differ: one of them is absent, or they are different values. -/
def distinct (b : Bounds) : Bool :=
  match b.low, b.high with
  | none, none => false
  | some low, some high => !low.equal high
  | _, _ => true

end Bounds

/-- The parameter that a bound is written as; empty for an absent one. -/
def boundParameter (bound : Option Json) : String := (bound.map Json.parameter).getD ""

/-! ## 2. Formats -/

/-- The layout of the formats that have one. -/
def dateLayout? (format : String) : Option String :=
  if format = "full-date full-time" then some "Y-m-d h:i:s"
  else if format = "full-date" then some "Y-m-d"
  else if format = "full-time" then some "h:i:s"
  else none

/-- The media types of images. -/
def imageTypes : List String :=
  ["image/png", "image/jpg", "image/jpeg", "image/bmp", "image/gif", "image/svg",
    "image/svg+xml", "image/webp"]

namespace Property

/-- Whether a property holds an encoded image. -/
def holdsImage (p : Property) : Bool :=
  p.text? .contentEncoding = some "base64" && (p.text? .contentMediaType).any imageTypes.contains

/-- Whether what a property lists or matches is denied. -/
def denies (p : Property) : Bool := p.modifier = some .not

/-- The listed values as parameters; a single value counts as a list of one. -/
def enumParameters (p : Property) : List String :=
  match p.option? .enum with
  | some (.array items) => items.map Json.parameter
  | some value => [value.parameter]
  | none => []

/-- The parameter that an option is written as; empty for an absent one. -/
def parameter (p : Property) (key : Keyword) : String :=
  ((p.option? key).map Json.parameter).getD ""

/-- The bounds under the keywords of the property's own type. -/
def bounds (p : Property) : Bounds :=
  match p.type with
  | .ok type => Bounds.of p type
  | .error _ => Bounds.of p ""

end Property

/-! ## 3. What checks read

Each of these looks at the type itself, and hands on the failure when there is none. -/

namespace Property

/-- The bounds of a property of a sized type, `none` for one of any other type. -/
def sizedBounds? (p : Property) : Except UntypedProperty (Option Bounds) := do
  let type ← p.type
  if isSizedType type then return some (Bounds.of p type)
  else return none

/-- The format of a string property, `none` for a property of any other type. -/
def stringFormat? (p : Property) : Except UntypedProperty (Option String) := do
  if ← p.isOf .string then return p.text? .format
  else return none

/-- Whether a property is a string with a pattern. -/
def hasStringPattern (p : Property) : Except UntypedProperty Bool := do
  return (← p.isOf .string) && p.hasOption .pattern

end Property

/-! ## 4. Rules -/

namespace Rule

/-- The check of a kind of rule: whether it applies to a property, or the failure of a property
whose missing type the check asks for. -/
def applies (rule : Rule) (p : Property) : Except UntypedProperty Bool :=
  match rule with
  | array => p.isOf .array
  | boolean => p.isOf .boolean
  | numeric => p.isOf .numeric
  | distinct => do
    if ← p.isOf .array then
      return (p.option? .uniqueItems).any fun value => value.equal (.bool true)
    else return false
  | multipleOf => do
    if ← p.isOf .numeric then return p.hasOption .multipleOf
    else return false
  | min => do return (← p.sizedBounds?).any fun b => b.low.isSome && b.distinct
  | max => do return (← p.sizedBounds?).any fun b => b.high.isSome && b.distinct
  | between => do
    return (← p.sizedBounds?).any fun b => b.low.isSome && b.high.isSome && b.distinct
  | size => do
    return (← p.sizedBounds?).any fun b => b.low.isSome && b.high.isSome && !b.distinct
  | date => do return (← p.stringFormat?).any fun f => f = "date" || f = "date-time"
  | dateFormat => do return ((← p.stringFormat?).bind dateLayout?).isSome
  | email => do return (← p.stringFormat?) = some "email"
  | url => do return (← p.stringFormat?) = some "uri"
  | ipAddress => do return (← p.stringFormat?).any fun f => f = "ipv4" || f = "ipv6"
  | image => do
    if ← p.isOf .string then return p.holdsImage
    else return false
  | regex => do return (← p.hasStringPattern) && !p.denies
  | notRegex => do return (← p.hasStringPattern) && p.denies
  | oneOf => .ok (!p.denies && p.hasOption .enum)
  | noneOf => .ok (p.denies && p.hasOption .enum)

/-- The clause of a rule, for a property that the rule applies to. -/
def clause (rule : Rule) (p : Property) : Clause :=
  match rule with
  | array => ⟨"array", []⟩
  | boolean => ⟨"boolean", []⟩
  | numeric => ⟨"numeric", []⟩
  | distinct => ⟨"distinct", []⟩
  | multipleOf => ⟨"multiple_of", [p.parameter .multipleOf]⟩
  | min => ⟨"min", [boundParameter p.bounds.low]⟩
  | max => ⟨"max", [boundParameter p.bounds.high]⟩
  | between => ⟨"between", [boundParameter p.bounds.low, boundParameter p.bounds.high]⟩
  | size => ⟨"size", [boundParameter p.bounds.low]⟩
  | date => ⟨"date", []⟩
  | dateFormat => ⟨"date_format", [((p.text? .format).bind dateLayout?).getD ""]⟩
  | email => ⟨"email", []⟩
  | url => ⟨"url", []⟩
  | ipAddress => ⟨"ip", []⟩
  | image => ⟨"image", []⟩
  | regex => Pattern.clause (p.parameter .pattern)
  | notRegex => ⟨"not_regex", [p.parameter .pattern]⟩
  | oneOf => ⟨"in", p.enumParameters⟩
  | noneOf => ⟨"not_in", p.enumParameters⟩

/-- The clause of a rule for a property, `none` when the rule does not apply. -/
def evaluate (rule : Rule) (p : Property) : Except UntypedProperty (Option Clause) :=
  (rule.applies p).map fun yes => if yes then some (rule.clause p) else none

/-- The clauses of a list of rules, in order, up to the first failure. -/
def evaluateAll : List Rule → Property → Except UntypedProperty (List Clause)
  | [], _ => .ok []
  | rule :: rest, p =>
    match rule.evaluate p with
    | .error e => .error e
    | .ok found =>
      match evaluateAll rest p with
      | .error e => .error e
      | .ok clauses => .ok (found.toList ++ clauses)

end Rule

/-- The clauses of a single definition. -/
def Property.clauses (p : Property) : Except UntypedProperty (List Clause) :=
  Rule.evaluateAll Rule.all p

end FieldRules

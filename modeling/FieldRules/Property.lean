/-
# Properties: a definition with its modifier resolved

A property has a definition, a JSON value of which only an object says anything.  Two keywords
change how the rest of the definition is read:

* under a `not` that is not null stands the definition that counts, and the modifier is `not`;
* an `allOf` that is not null makes the modifier `allOf`, also inside a `not`.

What is left are the options of the property.  Its type is the text of its `type` option; it may
leave the type out if it has a modifier or lists its values (`Property.type`).  The definitions
listed in `allOf` are properties of the same name (`Property.members`), each with its own
options and modifier: nothing is handed down to them.
-/
import FieldRules.FailureReport
import FieldRules.Json

namespace FieldRules

/-! ## 1. Keywords -/

/-- The keywords of a definition that have a meaning here. -/
inductive Keyword where
  | type | format | enum | pattern | multipleOf | uniqueItems | contentEncoding
  | contentMediaType | minimum | maximum | minLength | maxLength | minItems | maxItems
  | not | allOf
deriving DecidableEq

/-- The name of a keyword in a schema. -/
def Keyword.name : Keyword → String
  | type => "type"
  | format => "format"
  | enum => "enum"
  | pattern => "pattern"
  | multipleOf => "multipleOf"
  | uniqueItems => "uniqueItems"
  | contentEncoding => "contentEncoding"
  | contentMediaType => "contentMediaType"
  | minimum => "minimum"
  | maximum => "maximum"
  | minLength => "minLength"
  | maxLength => "maxLength"
  | minItems => "minItems"
  | maxItems => "maxItems"
  | not => "not"
  | allOf => "allOf"

/-! ## 2. Families of types -/

/-- The families of types that rules ask for. -/
inductive TypeFamily where
  | string | boolean | array | numeric | any
deriving DecidableEq

/-- Whether a type is a number type. -/
def isNumericType (type : String) : Bool :=
  type = "integer" || type = "number" || type = "float"

/-- Whether values of a type have a size that can be bounded. -/
def isSizedType (type : String) : Bool :=
  isNumericType type || type = "string" || type = "array"

/-- Whether a type belongs to the family. -/
def TypeFamily.holds (family : TypeFamily) (type : String) : Bool :=
  match family with
  | string => type = "string"
  | boolean => type = "boolean"
  | array => type = "array"
  | numeric => isNumericType type
  | any => isSizedType type || type = "boolean"

/-! ## 3. Properties -/

/-- How the options of a property are to be read. -/
inductive Modifier where
  | not | allOf
deriving DecidableEq

/-- A property with the options that count. -/
structure Property where
  name : String
  path : FieldPath
  options : List (String × Json)
  modifier : Option Modifier

namespace Property

/-- The options that count in a definition, and whether they stand under a `not`. -/
def effective (definition : Json) : List (String × Json) × Bool :=
  match Json.option? definition.fields Keyword.not.name with
  | some inner => (inner.fields, true)
  | none => (definition.fields, false)

/-- The property that a definition at `path` makes. -/
def ofDefinition (name : String) (path : FieldPath) (definition : Json) : Property :=
  let (options, negated) := effective definition
  let modifier :=
    if (Json.option? options Keyword.allOf.name).isSome then some Modifier.allOf
    else if negated then some Modifier.not
    else none
  ⟨name, path, options, modifier⟩

/-- The property that a definition makes in the property table of a schema. -/
def topLevel (name : String) (definition : Json) : Property :=
  ofDefinition name (.property name) definition

/-- The value of an option by its name; null counts as absent. -/
def optionNamed? (p : Property) (name : String) : Option Json := Json.option? p.options name

/-- The value of an option. -/
def option? (p : Property) (key : Keyword) : Option Json := p.optionNamed? key.name

/-- Whether an option is there. -/
def hasOption (p : Property) (key : Keyword) : Bool := (p.option? key).isSome

/-- The text of an option that is a string. -/
def text? (p : Property) (key : Keyword) : Option String := (p.option? key).bind Json.string?

/-- Whether the property may leave its type out. -/
def mayBeTypeless (p : Property) : Bool := p.modifier.isSome || p.hasOption .enum

/-- The type of a property: the text of its option, empty when that is no text or when the type
is left out by right. -/
def type (p : Property) : Except UntypedProperty String :=
  match p.option? .type with
  | some value => .ok (value.string?.getD "")
  | none => if p.mayBeTypeless then .ok "" else .error ⟨p.name, p.path⟩

/-- Whether the type of a property belongs to a family. -/
def isOf (p : Property) (family : TypeFamily) : Except UntypedProperty Bool :=
  p.type.map family.holds

/-- The definitions of an `allOf`, from index `n` on, as properties. -/
def membersFrom (p : Property) : Nat → List Json → List Property
  | _, [] => []
  | n, definition :: rest =>
    ofDefinition p.name (p.path.member n) definition :: p.membersFrom (n + 1) rest

/-- The properties that a property with the `allOf` modifier is made of. -/
def members (p : Property) : List Property :=
  if p.modifier = some .allOf then
    p.membersFrom 0 (((p.option? .allOf).bind Json.array?).getD [])
  else []

end Property

end FieldRules

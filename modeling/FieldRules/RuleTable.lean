/-
# Rule tables

A rule table gives the clauses of each property, in the order of the schema.  It is compiled
from a property table by taking each property but the id field on its own
(`RuleTable.compile`): the clauses of its definition, then those of each definition in its
`allOf`.  The first property without a type stops it.

A table is then refined: `markRequired` adds a clause to the properties that must be there, and
`without` takes clauses away by name.  Neither changes the properties or their order
(`keys_markRequired`, `keys_without`).  `texts` is the table as it is handed out.
-/
import FieldRules.OrderedMap
import FieldRules.Rule.Evaluation

namespace FieldRules

/-! ## 1. Omissions -/

/-- The names of the rules to leave out: one, or any of a list. -/
inductive Omission where
  | one (name : String)
  | many (names : List String)
deriving DecidableEq

/-- Whether a rule of this name is left out. -/
def Omission.omits : Omission → String → Bool
  | one name, rule => name = rule
  | many names, rule => names.contains rule

/-! ## 2. Tables -/

/-- The clauses of each property. -/
abbrev RuleTable := OrderedMap (List Clause)

/-- The clauses of each property as texts. -/
abbrev RuleTexts := OrderedMap (List String)

/-- The clauses of a list of properties, one after the other, up to the first failure. -/
def clausesOfAll : List Property → Except UntypedProperty (List Clause)
  | [] => .ok []
  | p :: rest =>
    match p.clauses with
    | .error e => .error e
    | .ok clauses =>
      match clausesOfAll rest with
      | .error e => .error e
      | .ok others => .ok (clauses ++ others)

/-- The clauses of a property of a schema: its own, then those of the definitions it is made of. -/
def compileProperty (name : String) (definition : Json) : Except UntypedProperty (List Clause) :=
  let p := Property.topLevel name definition
  clausesOfAll (p :: p.members)

/-- The field that is left out unless a contract says otherwise. -/
def defaultIdField : String := "id"

namespace RuleTable

/-- The table of every property but the id field. -/
def compile (idField : String) (properties : OrderedMap Json) :
    Except UntypedProperty RuleTable :=
  (properties.filter (· ≠ idField)).traverse compileProperty

/-- Adds the clause `required` to the properties that are required. -/
def markRequired (required : List String) (table : RuleTable) : RuleTable :=
  table.mapEntries fun name clauses =>
    if required.contains name then clauses ++ [Clause.required] else clauses

/-- Takes the omitted clauses away. -/
def without (omission : Omission) (table : RuleTable) : RuleTable :=
  table.mapEntries fun _ clauses => clauses.filter fun c => !omission.omits c.name

/-- The clauses as texts. -/
def texts (table : RuleTable) : RuleTexts :=
  table.mapEntries fun _ clauses => clauses.map Clause.text

@[simp] theorem keys_markRequired (required : List String) (table : RuleTable) :
    (table.markRequired required).keys = table.keys :=
  OrderedMap.keys_mapEntries _ _

@[simp] theorem keys_without (omission : Omission) (table : RuleTable) :
    (table.without omission).keys = table.keys :=
  OrderedMap.keys_mapEntries _ _

@[simp] theorem keys_texts (table : RuleTable) : table.texts.keys = table.keys :=
  OrderedMap.keys_mapEntries _ _

end RuleTable

/-! ## 3. From a property table to texts -/

/-- The rules without `required`. -/
def optionalRules (idField : String) (properties : OrderedMap Json) :
    Except UntypedProperty RuleTexts :=
  (RuleTable.compile idField properties).map RuleTable.texts

/-- The rules with `required` on the fields that must be there. -/
def requiredRules (idField : String) (properties : OrderedMap Json) (required : List String) :
    Except UntypedProperty RuleTexts :=
  (RuleTable.compile idField properties).map fun table => (table.markRequired required).texts

/-- The rules with `required`, less the omitted ones. -/
def rulesWithout (idField : String) (properties : OrderedMap Json) (required : List String)
    (omission : Omission) : Except UntypedProperty RuleTexts :=
  (RuleTable.compile idField properties).map fun table =>
    RuleTable.texts ((table.markRequired required).without omission)

end FieldRules

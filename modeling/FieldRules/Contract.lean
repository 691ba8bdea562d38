/-
# Contracts

A contract is a named schema: its properties in their order, the fields that are required and
the id field.  A contract is built from a schema document, of which only the two sections
`properties` and `required` are read; a section that is absent or null is empty, and one of
another kind is refused.

A contract answers which fields it has, which rules they have, and how a record looks through
it: `restrict` keeps the fields of the record that the contract declares, in the record's order,
and `fillOut` gives every declared field, in the contract's order, null where the record has
none.
-/
import FieldRules.Json.Reader
import FieldRules.RuleTable

namespace FieldRules

/-! ## 1. Faults -/

/-- The sections of a schema document. -/
inductive Section where
  | properties | required
deriving DecidableEq

/-- The name of a section in a document. -/
def Section.name : Section → String
  | properties => "properties"
  | required => "required"

/-- Why a contract is refused. -/
inductive ContractFault where
  | noSchema (contract : String)
  | malformed (contract : String)
  | invalidSection (contract : String) (part : Section)
  | duplicateName (contract : String)
deriving DecidableEq

/-! ## 2. Building a contract -/

/-- A named schema. -/
structure Contract where
  name : String
  properties : OrderedMap Json
  required : List String
  idField : String
deriving DecidableEq

/-- The members of a list, each where it first stands. -/
def firstOccurrences : List String → List String
  | [] => []
  | name :: rest => name :: (firstOccurrences rest).filter (· ≠ name)

/-- Dropping repetitions keeps the members. -/
theorem mem_firstOccurrences (name : String) : ∀ l : List String,
    name ∈ firstOccurrences l ↔ name ∈ l
  | [] => Iff.rfl
  | other :: rest => by
    have ih := mem_firstOccurrences name rest
    by_cases h : name = other
    · simp [firstOccurrences, h]
    · simp [firstOccurrences, h, ih]

namespace Contract

/-- The property table of a document. -/
def propertiesOf (name : String) (document : List (String × Json)) :
    Except ContractFault (OrderedMap Json) :=
  match Json.option? document Section.properties.name with
  | none => .ok .empty
  | some (.object fields) => .ok (.ofList fields)
  | some _ => .error (.invalidSection name .properties)

/-- The required fields of a document: the strings of its list, without repetitions. -/
def requiredOf (name : String) (document : List (String × Json)) :
    Except ContractFault (List String) :=
  match Json.option? document Section.required.name with
  | none => .ok []
  | some (.array items) => .ok (firstOccurrences (items.filterMap Json.string?))
  | some _ => .error (.invalidSection name .required)

/-- The contract that a schema document makes, with the usual id field. -/
def ofDocument (name : String) (schema : Json) : Except ContractFault Contract :=
  match schema.object? with
  | none => .error (.noSchema name)
  | some document =>
    match propertiesOf name document with
    | .error e => .error e
    | .ok properties =>
      match requiredOf name document with
      | .error e => .error e
      | .ok required => .ok ⟨name, properties, required, defaultIdField⟩

/-- **A contract has what its document says**, its name and the usual id field. -/
theorem parts_of_ofDocument {name : String} {schema : Json} {c : Contract}
    (h : ofDocument name schema = .ok c) :
    ∃ document, schema.object? = some document ∧ propertiesOf name document = .ok c.properties ∧
      requiredOf name document = .ok c.required ∧ c.name = name ∧ c.idField = defaultIdField := by
  unfold ofDocument at h
  split at h
  · cases h
  · rename_i document hdocument
    split at h
    · cases h
    · rename_i properties hproperties
      split at h
      · cases h
      · rename_i required hrequired
        cases h
        exact ⟨document, hdocument, hproperties, hrequired, rfl, rfl⟩

/-- The contract that the text of a schema document makes. -/
def ofText (name : String) (schema : String) : Except ContractFault Contract :=
  match Json.read? schema with
  | none => .error (.malformed name)
  | some document => ofDocument name document

/-- The same contract with another id field. -/
def identifiedBy (c : Contract) (idField : String) : Contract := { c with idField := idField }

/-! ## 3. What a contract answers -/

/-- A list of fields less the id field. -/
def dropId (idField : String) (fields : List String) : List String :=
  fields.filter (· ≠ idField)

/-- Every field, in order. -/
def fields (c : Contract) : List String := c.properties.keys

/-- Every field but the id field. -/
def dataFields (c : Contract) : List String := dropId c.idField c.fields

/-- The clauses of every field but the id field. -/
def ruleTable (c : Contract) : Except UntypedProperty RuleTable :=
  RuleTable.compile c.idField c.properties

/-- The rules of the fields, none of them required. -/
def optionalRules (c : Contract) : Except UntypedProperty RuleTexts :=
  FieldRules.optionalRules c.idField c.properties

/-- The rules of the fields. -/
def rules (c : Contract) : Except UntypedProperty RuleTexts :=
  requiredRules c.idField c.properties c.required

/-- The rules of the fields, less the omitted ones. -/
def rulesWithout (c : Contract) (omission : Omission) : Except UntypedProperty RuleTexts :=
  FieldRules.rulesWithout c.idField c.properties c.required omission

/-- The fields of a record that the contract declares, in the record's order. -/
def restrict (c : Contract) (record : OrderedMap Json) : OrderedMap Json :=
  record.filter c.properties.contains

/-- Every declared field with its value in the record, null where the record has none. -/
def fillOut (c : Contract) (record : OrderedMap Json) : OrderedMap Json :=
  c.properties.mapEntries fun name _ => (record.get? name).getD .null

/-! ## 4. Checking a contract -/

/-- The failures of the properties but the id field, each compiled on its own. -/
def failures (c : Contract) : List UntypedProperty :=
  (c.properties.filter (· ≠ c.idField)).entries.filterMap fun entry =>
    match compileProperty entry.1 entry.2 with
    | .error e => some e
    | .ok _ => none

/-- The report of a contract, if anything in it fails. -/
def report? (c : Contract) : Option FailureReport :=
  (FailureReport.ofList? c.failures).map (·.attributeTo c.name)

@[simp] theorem keys_restrict (c : Contract) (record : OrderedMap Json) :
    (c.restrict record).keys = record.keys.filter c.properties.contains :=
  OrderedMap.keys_filter _ _

@[simp] theorem keys_fillOut (c : Contract) (record : OrderedMap Json) :
    (c.fillOut record).keys = c.fields :=
  OrderedMap.keys_mapEntries _ _

end Contract

end FieldRules

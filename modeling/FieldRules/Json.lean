/-
# JSON values

The value type of schemas and records.  Whole numbers of the 64-bit ranges are integers and all
other numbers are binary64, so `1` and `1.0` are different values.  An object is the list of its
fields in the order of the document; the reader gives each name once.

`Json.equal` is equality of values: it disregards the order of an object's fields and the sign
of a zero, and nothing else (`equal_integer`, `equal_integer_float`).  Being the same value in
every respect is decided by `Json.identical`.
-/
import FieldRules.Binary64

namespace FieldRules

/-- A JSON value. -/
inductive Json where
  | null
  | bool (value : Bool)
  | integer (value : Int)
  | float (value : Binary64)
  | string (value : String)
  | array (items : List Json)
  | object (fields : List (String × Json))

namespace Json

instance : Inhabited Json := ⟨null⟩

/-! ## 1. Parts of a value -/

/-- Whether a value is null. -/
def isNull : Json → Bool
  | null => true
  | _ => false

/-- The text of a string value. -/
def string? : Json → Option String
  | string value => some value
  | _ => none

/-- The items of an array value. -/
def array? : Json → Option (List Json)
  | array items => some items
  | _ => none

/-- The fields of an object value. -/
def object? : Json → Option (List (String × Json))
  | object fields => some fields
  | _ => none

/-- The fields of an object; every other value has none. -/
def fields (j : Json) : List (String × Json) := j.object?.getD []

/-- The value of a field that is there and not null: a null field counts as absent. -/
def option? (fields : List (String × Json)) (name : String) : Option Json :=
  (fields.lookup name).filter fun value => !value.isNull

/-! ## 2. Equality of values -/

mutual

/-- Whether two values are the same value. -/
def equal : Json → Json → Bool
  | null, null => true
  | bool a, bool b => a = b
  | integer a, integer b => a = b
  | float a, float b => a.equal b
  | string a, string b => a = b
  | array a, array b => equalItems a b
  | object a, object b => a.length = b.length && fieldsWithin a b
  | _, _ => false

/-- Item by item, in order. -/
def equalItems : List Json → List Json → Bool
  | [], [] => true
  | a :: as, b :: bs => equal a b && equalItems as bs
  | _, _ => false

/-- Whether each field of the first object is a field of the second with the same value. -/
def fieldsWithin : List (String × Json) → List (String × Json) → Bool
  | [], _ => true
  | (name, a) :: rest, others =>
    (match others.lookup name with
      | some b => equal a b
      | none => false) && fieldsWithin rest others

end

@[simp] theorem equal_integer (a b : Int) : equal (integer a) (integer b) = decide (a = b) := by
  simp [equal]

@[simp] theorem equal_integer_float (a : Int) (b : Binary64) :
    equal (integer a) (float b) = false := by
  simp [equal]

@[simp] theorem equal_float (a b : Binary64) : equal (float a) (float b) = a.equal b := by
  simp [equal]

/-! ## 3. Identity of values -/

mutual

/-- Whether two values are one: unlike for `equal`, fields stand in the same order, and a zero
keeps its sign. -/
def identical : Json → Json → Bool
  | null, null => true
  | bool a, bool b => a = b
  | integer a, integer b => a = b
  | float a, float b => a = b
  | string a, string b => a = b
  | array as, array bs => identicalItems as bs
  | object as, object bs => identicalFields as bs
  | _, _ => false

/-- Item by item, in order. -/
def identicalItems : List Json → List Json → Bool
  | [], [] => true
  | a :: as, b :: bs => identical a b && identicalItems as bs
  | _, _ => false

/-- Field by field, in order. -/
def identicalFields : List (String × Json) → List (String × Json) → Bool
  | [], [] => true
  | (name, a) :: as, (other, b) :: bs => name = other && identical a b && identicalFields as bs
  | _, _ => false

end

mutual

theorem identical_iff : ∀ a b : Json, identical a b = true ↔ a = b
  | array as, b => by cases b <;> simp [identical, identicalItems_iff as]
  | object as, b => by cases b <;> simp [identical, identicalFields_iff as]
  | null, b | bool _, b | integer _, b | float _, b | string _, b => by
    cases b <;> simp [identical]

theorem identicalItems_iff : ∀ as bs : List Json, identicalItems as bs = true ↔ as = bs
  | [], bs => by cases bs <;> simp [identicalItems]
  | a :: as, bs => by cases bs <;> simp [identicalItems, identical_iff a, identicalItems_iff as]

theorem identicalFields_iff : ∀ as bs : List (String × Json),
    identicalFields as bs = true ↔ as = bs
  | [], bs => by cases bs <;> simp [identicalFields]
  | (_, a) :: as, bs => by
    cases bs <;> simp [identicalFields, identical_iff a, identicalFields_iff as, Prod.ext_iff]

end

instance : DecidableEq Json := fun a b => decidable_of_iff _ (identical_iff a b)

end Json

end FieldRules

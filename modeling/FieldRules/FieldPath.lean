/-
# Paths into a schema

A path says where in a schema a definition stands: a list of steps from the root, each into the
field of an object or to the item of an array.  Its text joins the steps: a name follows a dot
unless it is the first step, an index stands in brackets, and the root has a text of its own.
-/

namespace FieldRules

/-- One step of a path. -/
inductive Step where
  | key (name : String)
  | index (n : Nat)
deriving DecidableEq

/-- A path from the root of a schema. -/
structure FieldPath where
  steps : List Step
deriving DecidableEq

namespace FieldPath

/-! ## 1. Building paths -/

/-- The path without steps. -/
def root : FieldPath := ⟨[]⟩

/-- The path of a field of what stands at a path. -/
def field (path : FieldPath) (name : String) : FieldPath := ⟨path.steps ++ [.key name]⟩

/-- The path of an item of what stands at a path. -/
def item (path : FieldPath) (n : Nat) : FieldPath := ⟨path.steps ++ [.index n]⟩

/-- The path of a property's own definition. -/
def property (name : String) : FieldPath := (root.field "properties").field name

/-- The path of the `n`-th definition that a definition is made of. -/
def member (path : FieldPath) (n : Nat) : FieldPath := (path.field "allOf").item n

/-- How many steps a path has. -/
def size (path : FieldPath) : Nat := path.steps.length

/-- Whether a path has no steps. -/
def isRoot (path : FieldPath) : Bool := path.steps.isEmpty

/-- The last step of a path. -/
def last? (path : FieldPath) : Option Step := path.steps.getLast?

/-! ## 2. Text -/

/-- The text of the steps after the first. -/
def following : List Step → String
  | [] => ""
  | .key name :: rest => "." ++ name ++ following rest
  | .index n :: rest => "[" ++ toString n ++ "]" ++ following rest

/-- The text of a path. -/
def text (path : FieldPath) : String :=
  match path.steps with
  | [] => "(root)"
  | .key name :: rest => name ++ following rest
  | .index n :: rest => "[" ++ toString n ++ "]" ++ following rest

@[simp] theorem steps_property (name : String) :
    (property name).steps = [.key "properties", .key name] := rfl

@[simp] theorem steps_member (path : FieldPath) (n : Nat) :
    (path.member n).steps = path.steps ++ [.key "allOf", .index n] := by
  simp [member, field, item]

example : ((property "code").member 1).text = "properties.code.allOf[1]" := by decide +kernel
example : root.text = "(root)" := rfl

end FieldPath

end FieldRules

/-
# TOML values and how a document builds its tables

A settings file is a TOML document.  While it is read, its tables are open: a header opens a
table or an element of a list of tables, a dotted key makes the tables on its way, and each of
these may be taken up again or not.  `Draft` is a document in the making, with the way each
table came about, and a step that TOML forbids answers `none`:

* no name is given two values, and no header opens a table twice;
* a dotted key goes on only in tables that dotted keys made;
* a value, an inline table among them, is complete where it stands.

When the document ends, `Draft.finish` forgets how the tables came about.
-/
import FieldRules.OrderedMap
import FieldRules.Binary64

namespace FieldRules

/-- A value of a TOML document.  Infinities and not-a-number are floats without a finite value. -/
inductive Toml where
  | string (value : String)
  | integer (value : Int)
  | float (value : Option Binary64)
  | bool (value : Bool)
  | dateTime (text : String)
  | array (items : List Toml)
  | table (fields : List (String × Toml))

namespace Toml

/-! ## 1. Documents in the making -/

/-- How a table came about: on the way to a header, on the way of a dotted key, or by a header
of its own. -/
inductive Origin where
  | implied | dotted | header
deriving DecidableEq

/-- What stands under a name in a document in the making. -/
inductive Draft where
  | value (v : Toml)
  | table (origin : Origin) (fields : List (String × Draft))
  | tables (elements : List (List (String × Draft)))

/-- The fields of a table in the making. -/
abbrev Fields := List (String × Draft)

namespace Draft

/-- Changes the last element of a list. -/
def changeLast {α : Type} (change : α → Option α) : List α → Option (List α)
  | [] => none
  | [last] => (change last).map fun new => [new]
  | item :: rest => (changeLast change rest).map (item :: ·)

/-! ## 2. Headers -/

/-- Changes the table that names lead to; tables on the way are made if need be, and of a list
of tables the last element counts. -/
def change (act : Fields → Option Fields) : List String → Fields → Option Fields
  | [], fields => act fields
  | name :: names, fields =>
    match fields.lookup name with
    | none =>
      (change act names []).map fun new => OrderedMap.put name (.table .implied new) fields
    | some (.value _) => none
    | some (.table origin inner) =>
      (change act names inner).map fun new => OrderedMap.put name (.table origin new) fields
    | some (.tables elements) =>
      (changeLast (change act names) elements).map fun new =>
        OrderedMap.put name (.tables new) fields

/-- Opens a table by its header. -/
def openTable (name : String) (fields : Fields) : Option Fields :=
  match fields.lookup name with
  | none => some (OrderedMap.put name (.table .header []) fields)
  | some (.table .implied inner) => some (OrderedMap.put name (.table .header inner) fields)
  | some _ => none

/-- Opens a further element of a list of tables by its header. -/
def openElement (name : String) (fields : Fields) : Option Fields :=
  match fields.lookup name with
  | none => some (OrderedMap.put name (.tables [[]]) fields)
  | some (.tables elements) => some (OrderedMap.put name (.tables (elements ++ [[]])) fields)
  | some _ => none

/-! ## 3. Keys with values -/

/-- Gives a value to the name that a dotted key ends in; `mayHold` says whether the table reached
may take it. -/
def setAt (last : String) (v : Toml) : Bool → List String → Fields → Option Fields
  | mayHold, [], fields =>
    if mayHold && (fields.lookup last).isNone then some (fields ++ [(last, .value v)]) else none
  | _, name :: names, fields =>
    match fields.lookup name with
    | none =>
      (setAt last v true names []).map fun new =>
        OrderedMap.put name (.table .dotted new) fields
    | some (.value _) => none
    | some (.table .header _) => none
    | some (.table origin inner) =>
      (setAt last v (origin = .dotted) names inner).map fun new =>
        OrderedMap.put name (.table origin new) fields
    | some (.tables elements) =>
      (changeLast (setAt last v false names) elements).map fun new =>
        OrderedMap.put name (.tables new) fields

/-- Gives a value to a dotted key, which is not empty. -/
def set (key : List String) (v : Toml) (fields : Fields) : Option Fields :=
  match key.getLast? with
  | none => none
  | some last => setAt last v true key.dropLast fields

/-! ## 4. Finished documents -/

mutual

/-- The value that a draft has become. -/
def finish : Draft → Toml
  | value v => v
  | table _ fields => .table (finishFields fields)
  | tables elements => .array (finishElements elements)

/-- The fields that the fields of a draft have become. -/
def finishFields : List (String × Draft) → List (String × Toml)
  | [] => []
  | (name, draft) :: rest => (name, finish draft) :: finishFields rest

/-- The elements of a list of tables, as table values. -/
def finishElements : List (List (String × Draft)) → List Toml
  | [] => []
  | fields :: rest => .table (finishFields fields) :: finishElements rest

end

end Draft

end Toml

end FieldRules

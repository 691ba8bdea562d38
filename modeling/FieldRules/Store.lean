/-
# Stores of answers

A store keeps answers that were computed once, under the text of a key.  There are three kinds:
one that keeps what it is given, one that keeps nothing, and one that keeps what it is given but
has forgotten it when asked.  What a store says in reply to a call depends on its kind; what it
holds is a map from key texts to values.

A key is made of the kind of answer and the name of a contract, behind the name of the scope it
belongs to (`StoreKey.inScope`).  Every call on a store is recorded with its reply (`Call`), so
that a run can be judged by what it did to the store and not only by what it answered.

The view of a store is `Store.get?`: each change says what becomes of it (`get?_set`,
`get?_delete`, `get?_clear`), for stores of every kind.
-/
import FieldRules.RuleTable

namespace FieldRules

/-! ## 1. Keys and values -/

/-- The kinds of answers that are stored. -/
inductive AnswerKind where
  | fields | rules
deriving DecidableEq

/-- The name of a kind in a key. -/
def AnswerKind.name : AnswerKind → String
  | fields => "all"
  | rules => "rules"

/-- The key of an answer. -/
@[ext] structure StoreKey where
  text : String
deriving DecidableEq

namespace StoreKey

/-- A key outside every scope. -/
def plain (kind : AnswerKind) (contract : String) : StoreKey := ⟨kind.name ++ ":" ++ contract⟩

/-- A key inside a scope. -/
def inScope (scope : String) (kind : AnswerKind) (contract : String) : StoreKey :=
  ⟨scope ++ "/" ++ kind.name ++ ":" ++ contract⟩

end StoreKey

/-- A stored answer. -/
inductive StoredValue where
  | fields (names : List String)
  | rules (table : RuleTable)
deriving DecidableEq

namespace StoredValue

/-- The kind of answer that a value is. -/
def kind : StoredValue → AnswerKind
  | fields _ => .fields
  | rules _ => .rules

/-- The field list of a value that is one. -/
def fields? : StoredValue → Option (List String)
  | fields names => some names
  | rules _ => none

/-- The rule table of a value that is one. -/
def rules? : StoredValue → Option RuleTable
  | fields _ => none
  | rules table => some table

end StoredValue

/-! ## 2. Stores -/

/-- How a store treats what it is given. -/
inductive StoreKind where
  | memory | discarding | forgetful
deriving DecidableEq

/-- A store with the values it holds, by key text. -/
structure Store where
  kind : StoreKind
  values : OrderedMap StoredValue
deriving DecidableEq

namespace Store

/-- An empty store. -/
def new (kind : StoreKind) : Store := ⟨kind, .empty⟩

/-- Whether the store says it has a value. -/
def has (s : Store) (key : StoreKey) : Bool :=
  match s.kind with
  | .memory => s.values.contains key.text
  | .discarding => false
  | .forgetful => true

/-- The value that the store gives back. -/
def get? (s : Store) (key : StoreKey) : Option StoredValue :=
  match s.kind with
  | .memory => s.values.get? key.text
  | .discarding => none
  | .forgetful => none

/-- The value that the store holds, whatever it says. -/
def held? (s : Store) (key : StoreKey) : Option StoredValue :=
  match s.kind with
  | .discarding => none
  | _ => s.values.get? key.text

/-- Whether the store holds a value, whatever it says. -/
def holds (s : Store) (key : StoreKey) : Bool := (s.held? key).isSome

/-- Gives the store a value. -/
def set (s : Store) (key : StoreKey) (value : StoredValue) : Store :=
  match s.kind with
  | .discarding => s
  | _ => { s with values := s.values.insert key.text value }

/-- Takes a value out of the store. -/
def delete (s : Store) (key : StoreKey) : Store := { s with values := s.values.erase key.text }

/-- Takes every value out of the store. -/
def clear (s : Store) : Store := { s with values := .empty }

/-- How many values the store holds. -/
def size (s : Store) : Nat := s.values.size

/-- Whether the store holds nothing. -/
def isEmpty (s : Store) : Bool := s.values.isEmpty

/-! ### What a change does to the view -/

@[simp] theorem get?_new (kind : StoreKind) (key : StoreKey) : (new kind).get? key = none := by
  cases kind <;> rfl

theorem get?_set (s : Store) (key other : StoreKey) (value : StoredValue) :
    (s.set key value).get? other
      = if other = key ∧ s.kind = .memory then some value else s.get? other := by
  obtain ⟨kind, values⟩ := s
  cases kind with
  | memory => simp [get?, set, OrderedMap.get?_insert, StoreKey.ext_iff]
  | discarding => simp [get?, set]
  | forgetful => simp [get?, set]

theorem get?_delete (s : Store) (key other : StoreKey) :
    (s.delete key).get? other = if other = key then none else s.get? other := by
  obtain ⟨kind, values⟩ := s
  cases kind with
  | memory => simp [get?, delete, OrderedMap.get?_erase, StoreKey.ext_iff]
  | discarding => simp [get?, delete]
  | forgetful => simp [get?, delete]

@[simp] theorem get?_clear (s : Store) (key : StoreKey) : s.clear.get? key = none := by
  obtain ⟨kind, values⟩ := s
  cases kind <;> rfl

/-- A store says it has what it gives back. -/
theorem get?_eq_none_of_not_has {s : Store} {key : StoreKey} (h : s.has key = false) :
    s.get? key = none := by
  obtain ⟨kind, values⟩ := s
  cases kind with
  | memory => simpa [has, get?, OrderedMap.contains_eq_isSome_get?] using h
  | discarding => rfl
  | forgetful => rfl

end Store

/-! ## 3. Recorded calls -/

/-- A call on a store, with its reply. -/
inductive Call where
  | has (key : StoreKey) (reply : Bool)
  | get (key : StoreKey) (reply : Option AnswerKind)
  | set (key : StoreKey)
  | delete (key : StoreKey) (reply : Bool)
  | clear
deriving DecidableEq

/-- The text of the key of a call; empty for one that has no key. -/
def Call.keyText : Call → String
  | has key _ => key.text
  | get key _ => key.text
  | set key => key.text
  | delete key _ => key.text
  | clear => ""

/-- A store in use, with the calls made on it so far. -/
structure Journal where
  store : Store
  calls : List Call
deriving DecidableEq

namespace Journal

/-- A store on which no call has been made. -/
def start (store : Store) : Journal := ⟨store, []⟩

/-- Asks whether the store has a value. -/
def has (key : StoreKey) : StateM Journal Bool := fun j =>
  (j.store.has key, { j with calls := j.calls ++ [.has key (j.store.has key)] })

/-- Asks for a value. -/
def get? (key : StoreKey) : StateM Journal (Option StoredValue) := fun j =>
  let found := j.store.get? key
  (found, { j with calls := j.calls ++ [.get key (found.map StoredValue.kind)] })

/-- Gives a value to the store. -/
def set (key : StoreKey) (value : StoredValue) : StateM Journal Unit := fun j =>
  ((), ⟨j.store.set key value, j.calls ++ [.set key]⟩)

/-- Takes a value out of the store and says whether it was there. -/
def delete (key : StoreKey) : StateM Journal Bool := fun j =>
  (j.store.holds key, ⟨j.store.delete key, j.calls ++ [.delete key (j.store.holds key)]⟩)

/-- Takes everything out of the store. -/
def clear : StateM Journal Unit := fun j =>
  ((), ⟨j.store.clear, j.calls ++ [.clear]⟩)

end Journal

end FieldRules

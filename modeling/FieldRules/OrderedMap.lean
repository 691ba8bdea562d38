/-
# Maps that remember the order of first insertion

Property tables, rule tables and records are maps whose order of names is part of every
answer.  An `OrderedMap` is the list of its entries together with the fact that no name occurs
twice; writing under a name that is already there changes the value and leaves the name where
it is.

The view of a map is its `entries`.  Each operation says what it does to them:

* `put` keeps the names of a list that has the name and appends the name to one that has not
  (`keys_put_of_mem`, `keys_put_of_not_mem`), so it never makes a repeated name (`nodup_put`);
* `mapEntries`, `filter` and `traverse` act on the entries one by one and keep their order
  (`keys_traverseEntries`);
* writing entries with new names appends them (`entries_foldl_insert`);
* a change is seen under the names it is about and under no others (`get?_insert`,
  `get?_filter`, `get?_erase`).
-/

namespace FieldRules

/-- A finite map with names as keys, in order of first insertion. -/
structure OrderedMap (α : Type) where
  entries : List (String × α)
  nodup : (entries.map Prod.fst).Nodup
deriving DecidableEq

variable {α β ε : Type}

namespace OrderedMap

/-! ## 1. Entry lists -/

/-- Writes `value` under `name`: in place when the name occurs, at the end when it does not. -/
def put (name : String) (value : α) : List (String × α) → List (String × α)
  | [] => [(name, value)]
  | (other, old) :: rest =>
    if other = name then (name, value) :: rest else (other, old) :: put name value rest

theorem keys_put_of_mem (name : String) (value : α) : ∀ l : List (String × α),
    name ∈ l.map Prod.fst → (put name value l).map Prod.fst = l.map Prod.fst
  | [], h => by simp at h
  | (other, old) :: rest, h => by
    by_cases hk : other = name
    · simp [put, hk]
    · have hr : name ∈ rest.map Prod.fst := by
        rcases List.mem_cons.1 h with h | h
        · exact absurd h.symm hk
        · exact h
      simp [put, hk, keys_put_of_mem name value rest hr]

theorem keys_put_of_not_mem (name : String) (value : α) : ∀ l : List (String × α),
    name ∉ l.map Prod.fst → (put name value l).map Prod.fst = l.map Prod.fst ++ [name]
  | [], _ => rfl
  | (other, old) :: rest, h => by
    have hk : other ≠ name := fun e => h (by simp [e])
    have hr : name ∉ rest.map Prod.fst := fun e => h (List.mem_cons_of_mem _ e)
    simp [put, hk, keys_put_of_not_mem name value rest hr]

theorem nodup_put (name : String) (value : α) (l : List (String × α))
    (h : (l.map Prod.fst).Nodup) : ((put name value l).map Prod.fst).Nodup := by
  by_cases hm : name ∈ l.map Prod.fst
  · rw [keys_put_of_mem name value l hm]
    exact h
  · rw [keys_put_of_not_mem name value l hm]
    refine List.nodup_append.2 ⟨h, by simp, ?_⟩
    intro a ha b hb hab
    simp only [List.mem_singleton] at hb
    exact hm (hb ▸ hab ▸ ha)

/-- Applies `f` to the entries in order and stops at the first failure. -/
def traverseEntries (f : String → α → Except ε β) :
    List (String × α) → Except ε (List (String × β))
  | [] => .ok []
  | (name, value) :: rest =>
    match f name value with
    | .error e => .error e
    | .ok new =>
      match traverseEntries f rest with
      | .error e => .error e
      | .ok done => .ok ((name, new) :: done)

theorem keys_traverseEntries (f : String → α → Except ε β) :
    ∀ (l : List (String × α)) (done : List (String × β)),
      traverseEntries f l = .ok done → done.map Prod.fst = l.map Prod.fst
  | [], done, h => by
    cases h
    rfl
  | (name, value) :: rest, done, h => by
    unfold traverseEntries at h
    split at h
    · cases h
    · split at h
      · cases h
      · rename_i new _ tail ht
        cases h
        simp [keys_traverseEntries f rest tail ht]

/-! ## 2. The map operations -/

/-- The map without entries. -/
def empty : OrderedMap α := ⟨[], .nil⟩

instance : Inhabited (OrderedMap α) := ⟨empty⟩

/-- The names, in order of first insertion. -/
def keys (m : OrderedMap α) : List String := m.entries.map Prod.fst

/-- The value under `name`, if there is one. -/
def get? (m : OrderedMap α) (name : String) : Option α := m.entries.lookup name

/-- Whether `name` has a value. -/
def contains (m : OrderedMap α) (name : String) : Bool := m.keys.contains name

/-- How many entries there are. -/
def size (m : OrderedMap α) : Nat := m.entries.length

/-- Whether there are no entries. -/
def isEmpty (m : OrderedMap α) : Bool := m.entries.isEmpty

/-- Writes `value` under `name`; a name that is there keeps its place. -/
def insert (m : OrderedMap α) (name : String) (value : α) : OrderedMap α :=
  ⟨put name value m.entries, nodup_put name value m.entries m.nodup⟩

/-- The map that writing the pairs one after the other gives: a repeated name keeps its first
place and takes its last value. -/
def ofList (l : List (String × α)) : OrderedMap α :=
  l.foldl (fun m entry => m.insert entry.1 entry.2) empty

/-- Changes every value, given its name. -/
def mapEntries (f : String → α → β) (m : OrderedMap α) : OrderedMap β :=
  ⟨m.entries.map fun entry => (entry.1, f entry.1 entry.2), by
    have h : (m.entries.map fun entry => (entry.1, f entry.1 entry.2)).map Prod.fst
        = m.entries.map Prod.fst := by simp
    rw [h]
    exact m.nodup⟩

/-- Keeps the entries whose name passes the test. -/
def filter (p : String → Bool) (m : OrderedMap α) : OrderedMap α :=
  ⟨m.entries.filter fun entry => p entry.1,
    m.nodup.sublist (List.Sublist.map Prod.fst List.filter_sublist)⟩

/-- Removes the entry under `name`, if there is one. -/
def erase (m : OrderedMap α) (name : String) : OrderedMap α :=
  m.filter (· ≠ name)

/-- Applies `f` to the entries in order and stops at the first failure; the names stay. -/
def traverse (f : String → α → Except ε β) (m : OrderedMap α) : Except ε (OrderedMap β) :=
  match h : traverseEntries f m.entries with
  | .error e => .error e
  | .ok done => .ok ⟨done, by
      rw [keys_traverseEntries f m.entries done h]
      exact m.nodup⟩

/-- A new name is written at the end. -/
theorem put_of_not_mem (name : String) (value : α) : ∀ l : List (String × α),
    name ∉ l.map Prod.fst → put name value l = l ++ [(name, value)]
  | [], _ => rfl
  | (other, old) :: rest, h => by
    have hk : other ≠ name := fun e => h (by simp [e])
    have hr : name ∉ rest.map Prod.fst := fun e => h (List.mem_cons_of_mem _ e)
    simp [put, hk, put_of_not_mem name value rest hr]

@[ext] theorem ext_entries : ∀ {m n : OrderedMap α}, m.entries = n.entries → m = n
  | ⟨_, _⟩, ⟨_, _⟩, rfl => rfl

/-- Writing entries with new names appends them. -/
theorem entries_foldl_insert : ∀ (l : List (String × α)) (m : OrderedMap α),
    ((m.entries ++ l).map Prod.fst).Nodup →
      (l.foldl (fun m entry => m.insert entry.1 entry.2) m).entries = m.entries ++ l
  | [], m, _ => by simp
  | (name, value) :: rest, m, h => by
    have hnew : name ∉ m.entries.map Prod.fst := by
      rw [List.map_append, List.map_cons] at h
      intro hm
      exact (List.nodup_append.1 h).2.2 name hm name (List.mem_cons_self) rfl
    have hput : (m.insert name value).entries = m.entries ++ [(name, value)] :=
      put_of_not_mem name value m.entries hnew
    rw [List.foldl_cons, entries_foldl_insert rest _ (by rw [hput]; simpa using h), hput]
    simp

@[simp] theorem keys_empty : (empty : OrderedMap α).keys = [] := rfl

@[simp] theorem entries_insert (m : OrderedMap α) (name : String) (value : α) :
    (m.insert name value).entries = put name value m.entries := rfl

@[simp] theorem keys_mapEntries (f : String → α → β) (m : OrderedMap α) :
    (m.mapEntries f).keys = m.keys := by
  simp [keys, mapEntries]

@[simp] theorem keys_filter (p : String → Bool) (m : OrderedMap α) :
    (m.filter p).keys = m.keys.filter p := by
  simp [keys, filter, List.filter_map, Function.comp_def]

/-- A traversal succeeds exactly when the traversal of the entries does, and with its list. -/
theorem traverse_eq_ok_iff (f : String → α → Except ε β) (m : OrderedMap α)
    (n : OrderedMap β) :
    m.traverse f = .ok n ↔ traverseEntries f m.entries = .ok n.entries := by
  unfold traverse
  split
  · rename_i e h
    simp [h]
  · rename_i done h
    constructor
    · intro hn
      cases hn
      exact h
    · intro hn
      cases h.symm.trans hn
      rfl

theorem traverse_eq_error_iff (f : String → α → Except ε β) (m : OrderedMap α) (e : ε) :
    m.traverse f = .error e ↔ traverseEntries f m.entries = .error e := by
  unfold traverse
  split
  · rename_i e' h
    simp [h]
  · rename_i done h
    simp [h]

/-! ## 3. Look-up -/

theorem lookup_put (name other : String) (value : α) : ∀ l : List (String × α),
    (put name value l).lookup other = if other = name then some value else l.lookup other
  | [] => by
    by_cases h : other = name
    · simp [put, h]
    · simp [put, h, List.lookup_cons, beq_eq_false_iff_ne.2 h]
  | (key, old) :: rest => by
    have ih := lookup_put name other value rest
    by_cases hk : key = name
    · subst hk
      by_cases ho : other = key
      · simp [put, ho]
      · simp [put, ho, List.lookup_cons, beq_eq_false_iff_ne.2 ho]
    · by_cases ho : other = key
      · subst ho
        simp [put, hk]
      · simp [put, hk, List.lookup_cons, beq_eq_false_iff_ne.2 ho, ih]

theorem lookup_filter (p : String → Bool) (name : String) : ∀ l : List (String × α),
    (l.filter fun entry => p entry.1).lookup name = if p name then l.lookup name else none
  | [] => by simp
  | (key, value) :: rest => by
    have ih := lookup_filter p name rest
    by_cases hk : name = key
    · subst hk
      by_cases hp : p name
      · simp [hp]
      · simp [hp, ih]
    · by_cases hp : p key
      · simp [hp, List.lookup_cons, beq_eq_false_iff_ne.2 hk, ih]
      · simp [hp, List.lookup_cons, beq_eq_false_iff_ne.2 hk, ih]

theorem lookup_mapEntries (f : String → α → β) (name : String) : ∀ l : List (String × α),
    (l.map fun entry => (entry.1, f entry.1 entry.2)).lookup name = (l.lookup name).map (f name)
  | [] => rfl
  | (key, value) :: rest => by
    by_cases hk : name = key
    · simp [hk]
    · simp [List.lookup_cons, beq_eq_false_iff_ne.2 hk, lookup_mapEntries f name rest]

@[simp] theorem get?_empty (name : String) : (empty : OrderedMap α).get? name = none := rfl

/-- A written value is found under its name, and every other name is looked up as before. -/
theorem get?_insert (m : OrderedMap α) (name other : String) (value : α) :
    (m.insert name value).get? other = if other = name then some value else m.get? other :=
  lookup_put name other value m.entries

/-- A changed value is found under its name. -/
theorem get?_mapEntries (f : String → α → β) (m : OrderedMap α) (name : String) :
    (m.mapEntries f).get? name = (m.get? name).map (f name) :=
  lookup_mapEntries f name m.entries

theorem get?_filter (p : String → Bool) (m : OrderedMap α) (name : String) :
    (m.filter p).get? name = if p name then m.get? name else none :=
  lookup_filter p name m.entries

theorem get?_erase (m : OrderedMap α) (name other : String) :
    (m.erase name).get? other = if other = name then none else m.get? other := by
  rw [erase, get?_filter]
  by_cases h : other = name <;> simp [h]

theorem contains_eq_isSome_get? (m : OrderedMap α) (name : String) :
    m.contains name = (m.get? name).isSome := by
  unfold contains keys get?
  induction m.entries with
  | nil => rfl
  | cons entry rest ih =>
    obtain ⟨key, value⟩ := entry
    by_cases h : name = key
    · simp [h]
    · rw [List.map_cons, List.contains_cons, ih, List.lookup_cons, beq_eq_false_iff_ne.2 h]
      rfl

end OrderedMap

end FieldRules

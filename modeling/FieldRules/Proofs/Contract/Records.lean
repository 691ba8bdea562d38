/-
# A record seen through a contract

A contract looks at a record in two ways.  `restrict` goes through the record and keeps what is
declared, in the order of the record; `fillOut` goes through the contract and takes the value of
each field from the record, or null.  So the first gives a part of the record (`restrict_sublist`,
`mem_restrict_iff`), and the second hangs on nothing but the values of the declared fields
(`fillOut_congr`), of which null is as good as none.

Both are projections, and together they are one: what has been filled out is already restricted, and
restricting first takes nothing away that filling out would see (`restrict_fillOut`,
`fillOut_restrict`).
-/
import FieldRules.Contract
import FieldRules.Proofs.OrderedMap.Traversal

namespace FieldRules

variable {α : Type}

/-! ## 1. Maps -/

namespace OrderedMap

theorem contains_iff_mem_keys {m : OrderedMap α} {name : String} :
    m.contains name ↔ name ∈ m.keys :=
  List.contains_iff_mem

/-- A filter that every name passes changes nothing. -/
theorem filter_eq_self {m : OrderedMap α} {p : String → Bool} (h : ∀ name ∈ m.keys, p name) :
    m.filter p = m := by
  refine ext_entries (List.filter_eq_self.mpr fun entry hentry => ?_)
  exact h entry.1 (List.mem_map_of_mem hentry)

/-- Values that are the same in some sense, name by name, give entries that are. -/
theorem forall₂_mapEntries {β : Type} {same : β → β → Prop} {f g : String → α → β}
    {m : OrderedMap α} (h : ∀ name ∈ m.keys, ∀ value, same (f name value) (g name value)) :
    List.Forall₂ (fun a b => a.1 = b.1 ∧ same a.2 b.2) (m.mapEntries f).entries
      (m.mapEntries g).entries := by
  rw [mapEntries, mapEntries, List.forall₂_map_left_iff, List.forall₂_map_right_iff,
    List.forall₂_same]
  exact fun entry hentry => ⟨rfl, h entry.1 (List.mem_map_of_mem hentry) entry.2⟩

end OrderedMap

namespace Contract

variable {c : Contract} {record other : OrderedMap Json} {name : String}

/-! ## 2. Keeping what is declared -/

theorem restrict_sublist (c : Contract) (record : OrderedMap Json) :
    (c.restrict record).entries.Sublist record.entries :=
  List.filter_sublist

/-- **Restricting keeps the entries whose names are declared.** -/
theorem mem_restrict_iff {value : Json} :
    (name, value) ∈ (c.restrict record).entries ↔
      (name, value) ∈ record.entries ∧ name ∈ c.fields := by
  rw [restrict, OrderedMap.filter, List.mem_filter, OrderedMap.contains_iff_mem_keys]
  rfl

theorem get?_restrict (h : name ∈ c.fields) :
    (c.restrict record).get? name = record.get? name := by
  rw [restrict, OrderedMap.get?_filter, if_pos (OrderedMap.contains_iff_mem_keys.mpr h)]

theorem restrict_of_declared (h : ∀ name ∈ record.keys, name ∈ c.fields) :
    c.restrict record = record :=
  OrderedMap.filter_eq_self fun name hname => OrderedMap.contains_iff_mem_keys.mpr (h name hname)

theorem restrict_restrict (c : Contract) (record : OrderedMap Json) :
    c.restrict (c.restrict record) = c.restrict record := by
  refine restrict_of_declared fun name hname => ?_
  rw [keys_restrict] at hname
  exact OrderedMap.contains_iff_mem_keys.mp (List.mem_filter.mp hname).2

/-! ## 3. Giving every declared field -/

/-- **A declared field has its value in the record**, or null. -/
theorem get?_fillOut (h : name ∈ c.fields) :
    (c.fillOut record).get? name = some ((record.get? name).getD .null) := by
  obtain ⟨d, hd⟩ : ∃ d, c.properties.get? name = some d := by
    rw [← Option.isSome_iff_exists, ← OrderedMap.contains_eq_isSome_get?]
    exact OrderedMap.contains_iff_mem_keys.mpr h
  rw [fillOut, OrderedMap.get?_mapEntries, hd]
  rfl

/-- **Filling out looks at the values of declared fields only.**  Where these are the same in some
sense for two records, so is all that is filled out. -/
theorem forall₂_fillOut (same : Json → Json → Prop)
    (h : ∀ name ∈ c.fields, same ((record.get? name).getD .null) ((other.get? name).getD .null)) :
    List.Forall₂ (fun a b => a.1 = b.1 ∧ same a.2 b.2) (c.fillOut record).entries
      (c.fillOut other).entries :=
  OrderedMap.forall₂_mapEntries fun name hname _ => h name hname

theorem fillOut_congr
    (h : ∀ name ∈ c.fields, (record.get? name).getD .null = (other.get? name).getD .null) :
    c.fillOut record = c.fillOut other := by
  refine OrderedMap.ext_entries (List.forall₂_eq_eq_eq ▸ ?_)
  exact (forall₂_fillOut Eq h).imp fun _ _ hentry => Prod.ext hentry.1 hentry.2

theorem fillOut_fillOut (c : Contract) (record : OrderedMap Json) :
    c.fillOut (c.fillOut record) = c.fillOut record :=
  fillOut_congr fun name hname => by rw [get?_fillOut hname, Option.getD_some]

theorem fillOut_restrict (c : Contract) (record : OrderedMap Json) :
    c.fillOut (c.restrict record) = c.fillOut record :=
  fillOut_congr fun name hname => by rw [get?_restrict hname]

theorem restrict_fillOut (c : Contract) (record : OrderedMap Json) :
    c.restrict (c.fillOut record) = c.fillOut record :=
  restrict_of_declared fun name hname => by rwa [keys_fillOut] at hname

/-! ## 4. Both -/

/-- **A contract projects records, in two ways that agree.**  Restricting keeps exactly the declared
entries, in the order of the record.  Filling out gives exactly the declared fields, in the order of
the contract.  Where the record has a declared field, both have its value; where it has not, filling
out gives null.  Doing either twice is doing it once, and doing both, in either order, is filling
out.  Records with the same values under the declared names are filled out to the same, whatever
else they hold and in what order; if the values are equal without being the same, then so are those
that are filled out. -/
theorem views_are_projections (c : Contract) (record : OrderedMap Json) :
    ((c.restrict record).entries.Sublist record.entries ∧
      ∀ name value, (name, value) ∈ (c.restrict record).entries ↔
        (name, value) ∈ record.entries ∧ name ∈ c.fields) ∧
    (c.fillOut record).keys = c.fields ∧
    (∀ name ∈ c.fields, ∀ value, record.get? name = some value →
      (c.restrict record).get? name = some value ∧ (c.fillOut record).get? name = some value) ∧
    (∀ name ∈ c.fields, record.get? name = none → (c.fillOut record).get? name = some .null) ∧
    c.restrict (c.restrict record) = c.restrict record ∧
    c.fillOut (c.fillOut record) = c.fillOut record ∧
    c.fillOut (c.restrict record) = c.fillOut record ∧
    c.restrict (c.fillOut record) = c.fillOut record ∧
    (∀ other : OrderedMap Json, (∀ name ∈ c.fields, record.get? name = other.get? name) →
      c.fillOut record = c.fillOut other) ∧
    (∀ other : OrderedMap Json,
      (∀ name ∈ c.fields, Option.Rel (fun a b => a.equal b) (record.get? name) (other.get? name)) →
      List.Forall₂ (fun a b => a.1 = b.1 ∧ a.2.equal b.2) (c.fillOut record).entries
        (c.fillOut other).entries) := by
  refine ⟨⟨restrict_sublist c record, fun name value => mem_restrict_iff⟩, keys_fillOut c record,
    fun name hname value hvalue => ?_, fun name hname hnone => ?_, restrict_restrict c record,
    fillOut_fillOut c record, fillOut_restrict c record, restrict_fillOut c record,
    fun other hsame => ?_, fun other hequal => ?_⟩
  · rw [get?_restrict hname, get?_fillOut hname, hvalue]
    exact ⟨rfl, rfl⟩
  · rw [get?_fillOut hname, hnone]
    rfl
  · exact fillOut_congr fun name hname => by rw [hsame name hname]
  · refine forall₂_fillOut (fun a b => a.equal b) fun name hname => ?_
    have hvalues := hequal name hname
    revert hvalues
    generalize record.get? name = value
    generalize other.get? name = value'
    rintro (h | _)
    · exact h
    · rfl

/-! ### One record

It has a null, a field that is not declared, and one declared field too few; the other record has
the same declared values in another order. -/

def noteContract : Contract :=
  ⟨"note", .ofList [("id", .null), ("title", .null), ("text", .null), ("mark", .null)], [], "id"⟩

def noteRecord : OrderedMap Json :=
  .ofList [("text", .string "b"), ("draft", .bool true), ("mark", .null), ("id", .integer 7)]

/-- The same values under the declared names, among others. -/
def shuffledRecord : OrderedMap Json :=
  .ofList [("id", .integer 7), ("mark", .null), ("page", .integer 1), ("text", .string "b")]

theorem views_are_projections_noteRecord :
    noteContract.restrict noteRecord
        = .ofList [("text", .string "b"), ("mark", .null), ("id", .integer 7)] ∧
      noteContract.fillOut noteRecord
        = .ofList [("id", .integer 7), ("title", .null), ("text", .string "b"), ("mark", .null)] ∧
      (noteContract.restrict noteRecord).get? "text" = some (.string "b") ∧
      (noteContract.fillOut noteRecord).get? "title" = some .null ∧
      noteContract.restrict (noteContract.fillOut noteRecord) = noteContract.fillOut noteRecord ∧
      noteContract.fillOut noteRecord = noteContract.fillOut shuffledRecord := by
  obtain ⟨-, -, hpresent, habsent, -, -, -, hfilled, hsame, -⟩ :=
    views_are_projections noteContract noteRecord
  refine ⟨by decide +kernel, by decide +kernel, ?_, ?_, hfilled, hsame _ (by decide +kernel)⟩
  · exact (hpresent "text" (by decide +kernel) _ (by decide +kernel)).1
  · exact habsent "title" (by decide +kernel) (by decide +kernel)

end Contract

end FieldRules

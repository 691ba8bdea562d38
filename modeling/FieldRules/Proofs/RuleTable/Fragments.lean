/-
# What compilation gives

A definition by itself has a fragment: the clauses of all kinds of rules that apply to it, in the
order of the kinds (`Json.IsFragment`).  The clauses of a property of a schema are its own fragment
and then the fragments of its parts, one level deep (`fragments_of_compileProperty`).  A fragment
is said of a definition alone, without name or path, so a part owes nothing to the definition that
it stands in.

A table is compiled property by property.  Hence it has the names of the schema but the id field,
each name has what it has in a schema of its own, and schemas without a common name can be
compiled one after the other (`compile_fragments`).
-/
import FieldRules.Proofs.OrderedMap.Traversal
import FieldRules.Proofs.Rule.Evaluation
import FieldRules.RuleTable

namespace FieldRules

/-! ## 1. Fragments -/

/-- The clauses of exactly the kinds of rules that apply to a definition, each kind once and in
increasing order of identifiers, whatever name the definition goes by and wherever it stands. -/
def Json.IsFragment (d : Json) (clauses : List Clause) : Prop :=
  ∃ kinds : List Rule, Rule.Increasing kinds ∧
    ∀ (name : String) (path : FieldPath),
      (∀ rule, rule ∈ kinds ↔
        rule ∈ Rule.all ∧ rule.applies (Property.ofDefinition name path d) = .ok true) ∧
      clauses = kinds.map fun rule => rule.clause (Property.ofDefinition name path d)

/-- A definition whose clauses are found can be typed. -/
theorem typeable_of_clauses {name : String} {path : FieldPath} {d : Json} {clauses : List Clause}
    (h : (Property.ofDefinition name path d).clauses = .ok clauses) : d.Typeable := by
  by_contra hnot
  rw [Property.clauses_of_untyped (Property.type_ofDefinition_of_not hnot)] at h
  cases h

/-- **The clauses of a definition are its fragment.** -/
theorem isFragment_of_clauses {name : String} {path : FieldPath} {d : Json}
    {clauses : List Clause} (h : (Property.ofDefinition name path d).clauses = .ok clauses) :
    d.IsFragment clauses := by
  have htype : ∀ (other : String) (place : FieldPath),
      (Property.ofDefinition other place d).type = .ok d.typeText :=
    fun _ _ => Property.type_ofDefinition (typeable_of_clauses h)
  rw [Property.clauses_of_type (htype name path)] at h
  cases h
  refine ⟨Rule.all.filter fun rule => rule.holds (.ofDefinition name path d) d.typeText,
    Rule.increasing_all.filter _, fun other place => ⟨fun rule => ?_, ?_⟩⟩
  · have hsame := (Property.sameReading_ofDefinition name other path place d).readsAlike
    rw [List.mem_filter, Rule.applies_of_type (htype other place), hsame.holds_eq]
    simp
  · have hsame := (Property.sameReading_ofDefinition name other path place d).readsAlike
    exact List.map_congr_left fun rule _ =>
      hsame.clause_eq (htype name path) (htype other place) rule

/-! ## 2. One property -/

/-- The clauses of properties one after the other are those of a pass over them. -/
theorem clausesOfAll_eq_mapM : ∀ properties : List Property,
    clausesOfAll properties = (properties.mapM Property.clauses).map List.flatten
  | [] => rfl
  | p :: rest => by
    rw [clausesOfAll, List.mapM_cons, clausesOfAll_eq_mapM rest]
    cases p.clauses with
    | error e => rfl
    | ok clauses => cases rest.mapM Property.clauses <;> rfl

/-- Compiling properties one after the other compiles each of them. -/
theorem clausesOfAll_eq_ok_iff (properties : List Property) (clauses : List Clause) :
    clausesOfAll properties = .ok clauses ↔
      ∃ fragments, List.Forall₂ (fun p fragment => p.clauses = .ok fragment) properties fragments ∧
        clauses = fragments.flatten := by
  rw [clausesOfAll_eq_mapM]
  simp only [← mapM_eq_ok_iff]
  cases properties.mapM Property.clauses <;> simp [Except.map, eq_comm]

/-- The clauses of members are the clauses of the parts that they are made of. -/
theorem clauses_of_mapIdx {name : String} : ∀ {parts : List Json} {place : Nat → FieldPath}
    {fragments : List (List Clause)},
    List.Forall₂ (fun p fragment => p.clauses = .ok fragment)
        (parts.mapIdx fun i part => Property.ofDefinition name (place i) part) fragments →
      List.Forall₂
        (fun part fragment => ∃ path, (Property.ofDefinition name path part).clauses = .ok fragment)
        parts fragments
  | [], _, _, h => by
    cases h
    exact .nil
  | _ :: _, place, _, h => by
    rw [List.mapIdx_cons] at h
    cases h with
    | cons hpart hrest => exact .cons ⟨place 0, hpart⟩ (clauses_of_mapIdx hrest)

/-- The clauses of a property are found one definition at a time. -/
theorem clauses_of_compileProperty {name : String} {d : Json} {clauses : List Clause}
    (h : compileProperty name d = .ok clauses) :
    ∃ own parts, (Property.topLevel name d).clauses = .ok own ∧
      List.Forall₂
        (fun part fragment => ∃ path, (Property.ofDefinition name path part).clauses = .ok fragment)
        d.parts parts ∧
      clauses = own ++ parts.flatten := by
  obtain ⟨fragments, hall, rfl⟩ := (clausesOfAll_eq_ok_iff _ _).mp h
  cases hall with
  | @cons _ own _ parts hown hparts =>
    rw [Property.topLevel, Property.members_ofDefinition] at hparts
    exact ⟨own, parts, hown, clauses_of_mapIdx hparts, List.flatten_cons⟩

/-- **A property has its own fragment and those of its parts**, in this order. -/
theorem fragments_of_compileProperty {name : String} {d : Json} {clauses : List Clause}
    (h : compileProperty name d = .ok clauses) :
    ∃ own parts, d.IsFragment own ∧ List.Forall₂ Json.IsFragment d.parts parts ∧
      clauses = own ++ parts.flatten := by
  obtain ⟨own, parts, hown, hparts, rfl⟩ := clauses_of_compileProperty h
  refine ⟨own, parts, isFragment_of_clauses hown, hparts.imp fun part fragment hpart => ?_, rfl⟩
  obtain ⟨path, hpath⟩ := hpart
  exact isFragment_of_clauses hpath

/-! ## 3. Tables -/

namespace RuleTable

variable {idField : String}

/-- A schema with one property, not the id field, is compiled to the clauses of that property. -/
theorem compile_single {name : String} {d : Json} {clauses : List Clause} (hid : name ≠ idField)
    (h : compileProperty name d = .ok clauses) :
    compile idField (OrderedMap.empty.insert name d)
      = .ok (OrderedMap.empty.insert name clauses) := by
  rw [compile, OrderedMap.traverse_eq_ok_iff]
  simp [OrderedMap.filter, OrderedMap.empty, OrderedMap.put, OrderedMap.traverseEntries, hid, h]

/-- **What compilation gives.**  A table has the names of the schema but the id field, each once
and in order.  Under a name stand the fragment of its definition and then those of the parts of
the definition; a schema with this one property has the same under it.  And two schemas without a
common name are compiled one after the other. -/
theorem compile_fragments (idField : String) :
    (∀ (properties : OrderedMap Json) (table : RuleTable),
      compile idField properties = .ok table →
      table.keys = properties.keys.filter (· ≠ idField) ∧ table.keys.Nodup ∧
        ∀ name d, properties.get? name = some d → name ≠ idField →
          ∃ own parts, d.IsFragment own ∧ List.Forall₂ Json.IsFragment d.parts parts ∧
            table.get? name = some (own ++ parts.flatten) ∧
            compile idField (OrderedMap.empty.insert name d)
              = .ok (OrderedMap.empty.insert name (own ++ parts.flatten))) ∧
    (∀ (left right : OrderedMap Json) (table : RuleTable), left.keys.Disjoint right.keys →
      (compile idField (left.append right) = .ok table ↔
        ∃ first second, compile idField left = .ok first ∧ compile idField right = .ok second ∧
          table = first.append second)) := by
  constructor
  · intro properties table h
    have hkeys : table.keys = properties.keys.filter (· ≠ idField) := by
      rw [OrderedMap.keys_of_traverse h, OrderedMap.keys_filter]
    refine ⟨hkeys, table.nodup, fun name d hget hid => ?_⟩
    have hkept : (properties.filter (· ≠ idField)).get? name = some d := by
      rw [OrderedMap.get?_filter, if_pos (by simpa using hid)]
      exact hget
    obtain ⟨clauses, hclauses, hfound⟩ := OrderedMap.get?_of_traverse h hkept
    obtain ⟨own, parts, hown, hparts, rfl⟩ := fragments_of_compileProperty hclauses
    exact ⟨own, parts, hown, hparts, hfound, compile_single hid hclauses⟩
  · intro left right table hdisjoint
    rw [compile, OrderedMap.filter_append hdisjoint]
    exact OrderedMap.traverse_append_eq_ok_iff compileProperty
      (OrderedMap.disjoint_keys_filter hdisjoint _) table

/-! ### One schema

The property `code` is read from under its `not`.  It has two parts, and the listed values inside
the first of them are lost, for parts are not taken apart again. -/

/-- A definition under a `not`, with parts that have a `not` and an `allOf` of their own. -/
def codeDefinition : Json :=
  .object [("not", .object [("type", .string "string"), ("minLength", .integer 2),
    ("allOf", .array [
      .object [("type", .string "string"), ("format", .string "email"),
        ("allOf", .array [.object [("enum", .array [.string "lost"])]])],
      .object [("not", .object [("enum", .array [.string "x"])])]])])]

def codeSchema : OrderedMap Json := .ofList [("id", .null), ("code", codeDefinition)]

def sizeSchema : OrderedMap Json := .ofList [("size", .object [("type", .string "integer")])]

def codeTable : RuleTable := .ofList [("code", [⟨"min", ["2"]⟩, ⟨"email", []⟩, ⟨"not_in", ["x"]⟩])]

def sizeTable : RuleTable := .ofList [("size", [⟨"numeric", []⟩])]

theorem compile_fragments_codeSchema :
    compile "id" codeSchema = .ok codeTable ∧ codeTable.keys = ["code"] ∧
      (∃ own parts, codeDefinition.IsFragment own ∧
        List.Forall₂ Json.IsFragment codeDefinition.parts parts ∧
        codeTable.get? "code" = some (own ++ parts.flatten)) ∧
      compile "id" (codeSchema.append sizeSchema) = .ok (codeTable.append sizeTable) := by
  have hcode : compile "id" codeSchema = .ok codeTable := by decide +kernel
  have hsize : compile "id" sizeSchema = .ok sizeTable := by decide +kernel
  have hkeys : codeTable.keys = ["code"] := by decide +kernel
  have hget : codeSchema.get? "code" = some codeDefinition := by decide +kernel
  have hdisjoint : ∀ name ∈ codeSchema.keys, name ∉ sizeSchema.keys := by decide +kernel
  obtain ⟨hone, htwo⟩ := compile_fragments "id"
  obtain ⟨-, -, hnames⟩ := hone codeSchema codeTable hcode
  obtain ⟨own, parts, hown, hparts, hfound, -⟩ :=
    hnames "code" codeDefinition hget (by decide +kernel)
  refine ⟨hcode, hkeys, ⟨own, parts, hown, hparts, hfound⟩, ?_⟩
  exact (htwo codeSchema sizeSchema _ fun name => hdisjoint name).mpr
    ⟨codeTable, sizeTable, hcode, hsize, rfl⟩

end RuleTable

end FieldRules

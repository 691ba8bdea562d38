/-
# When compilation fails, and where

Only a missing type stops a compilation.  A definition is complete when it can be typed and so can
each of its parts (`Json.Complete`).  A property whose definition is not complete fails in one
place (`UntypedAt`): at the definition itself when that cannot be typed, and else at the first part
that cannot.

A table fails as its first property does that is not complete, the id field left aside
(`compile_eq_error_iff`).  Required fields and omissions are looked at only after a table is
there, so they change nothing about this.
-/
import FieldRules.Proofs.RuleTable.Fragments

namespace FieldRules

/-! ## 1. Complete definitions -/

/-- Whether a definition and each of its parts can be typed. -/
def Json.Complete (d : Json) : Prop := d.Typeable ∧ ∀ part ∈ d.parts, part.Typeable

/-- Where a property fails. -/
inductive UntypedAt (name : String) (d : Json) : UntypedProperty → Prop
  | itself : ¬d.Typeable → UntypedAt name d ⟨name, ⟨[.key "properties", .key name]⟩⟩
  | part {before after : List Json} {part : Json} : d.Typeable →
      d.parts = before ++ part :: after → (∀ other ∈ before, other.Typeable) → ¬part.Typeable →
      UntypedAt name d
        ⟨name, ⟨[.key "properties", .key name, .key "allOf", .index before.length]⟩⟩

theorem UntypedAt.not_complete {name : String} {d : Json} {e : UntypedProperty}
    (h : UntypedAt name d e) : ¬d.Complete := by
  rintro ⟨hown, hparts⟩
  cases h with
  | itself hnot => exact hnot hown
  | part _ hl _ hnot =>
    refine hnot (hparts _ ?_)
    rw [hl]
    exact List.mem_append_right _ List.mem_cons_self

/-! ## 2. One property -/

section

variable {name : String} {path : FieldPath} {d : Json} {e : UntypedProperty}

/-- A definition has clauses exactly when it can be typed. -/
theorem exists_clauses_iff :
    (∃ clauses, (Property.ofDefinition name path d).clauses = .ok clauses) ↔ d.Typeable := by
  constructor
  · rintro ⟨clauses, h⟩
    exact typeable_of_clauses h
  · intro h
    exact ⟨_, Property.clauses_of_type (Property.type_ofDefinition h)⟩

/-- The members made of definitions have clauses exactly when each definition can be typed. -/
theorem forall_clauses_iff {parts : List Json} {place : Nat → FieldPath} :
    (∀ q ∈ parts.mapIdx fun i part => Property.ofDefinition name (place i) part,
      ∃ clauses, q.clauses = .ok clauses) ↔ ∀ part ∈ parts, part.Typeable := by
  constructor
  · intro h part hpart
    obtain ⟨i, hi, rfl⟩ := List.getElem_of_mem hpart
    have hmem : Property.ofDefinition name (place i) parts[i]
        ∈ parts.mapIdx fun i part => Property.ofDefinition name (place i) part :=
      List.mem_mapIdx.mpr ⟨i, hi, rfl⟩
    exact exists_clauses_iff.mp (h _ hmem)
  · intro h q hq
    obtain ⟨i, hi, rfl⟩ := List.mem_mapIdx.mp hq
    exact exists_clauses_iff.mpr (h _ (List.getElem_mem hi))

theorem clauses_eq_error_iff :
    (Property.ofDefinition name path d).clauses = .error e ↔ ¬d.Typeable ∧ e = ⟨name, path⟩ := by
  by_cases h : d.Typeable
  · rw [Property.clauses_of_type (Property.type_ofDefinition h)]
    simp [h]
  · rw [Property.clauses_of_untyped (Property.type_ofDefinition_of_not h)]
    simp [h, eq_comm]

/-- Properties one after the other fail as the first of them that fails. -/
theorem clausesOfAll_eq_error_iff (properties : List Property) (e : UntypedProperty) :
    clausesOfAll properties = .error e ↔
      ∃ before p after, properties = before ++ p :: after ∧
        (∀ q ∈ before, ∃ clauses, q.clauses = .ok clauses) ∧ p.clauses = .error e := by
  rw [clausesOfAll_eq_mapM, ← mapM_eq_error_iff]
  cases properties.mapM Property.clauses <;> simp [Except.map]

/-- **A property fails in the one place where it is untyped.** -/
theorem compileProperty_eq_error_iff : compileProperty name d = .error e ↔ UntypedAt name d e := by
  rw [compileProperty, clausesOfAll_eq_error_iff, Property.topLevel,
    Property.members_ofDefinition]
  constructor
  · rintro ⟨before, p, after, hl, hbefore, hfail⟩
    cases before with
    | nil =>
      -- the property itself has no clauses
      cases hl
      obtain ⟨hnot, rfl⟩ := clauses_eq_error_iff.mp hfail
      exact .itself hnot
    | cons own before =>
      -- the property has, and the members before a certain one have
      obtain ⟨rfl, hmembers⟩ := List.cons.inj hl
      obtain ⟨parts, others, hparts, rfl, hrest⟩ := List.mapIdx_eq_append_iff.mp hmembers
      obtain ⟨part, rest, rfl, rfl, -⟩ := List.mapIdx_eq_cons_iff.mp hrest
      obtain ⟨hnot, rfl⟩ := clauses_eq_error_iff.mp hfail
      obtain ⟨hown, htyped⟩ := List.forall_mem_cons.mp hbefore
      rw [Nat.zero_add]
      exact .part (exists_clauses_iff.mp hown) hparts (forall_clauses_iff.mp htyped) hnot
  · intro h
    cases h with
    | itself hnot =>
      exact ⟨[], _, _, rfl, List.forall_mem_nil _, clauses_eq_error_iff.mpr ⟨hnot, rfl⟩⟩
    | @part before after part hown hparts htyped hnot =>
      let member := fun i q => Property.ofDefinition name ((FieldPath.property name).member i) q
      have hmembers : d.parts.mapIdx member = before.mapIdx member ++ member before.length part ::
          after.mapIdx fun i => member (i + 1 + before.length) := by
        rw [hparts, List.mapIdx_append, List.mapIdx_cons, Nat.zero_add]
      refine ⟨_ :: before.mapIdx member, member before.length part, _,
        congrArg (List.cons _) hmembers,
        List.forall_mem_cons.mpr ⟨exists_clauses_iff.mpr hown, forall_clauses_iff.mpr htyped⟩,
        clauses_eq_error_iff.mpr ⟨hnot, rfl⟩⟩

theorem exists_clauses_of_complete (h : d.Complete) :
    ∃ clauses, compileProperty name d = .ok clauses := by
  cases hresult : compileProperty name d with
  | ok clauses => exact ⟨clauses, rfl⟩
  | error e => exact absurd h (compileProperty_eq_error_iff.mp hresult).not_complete

theorem complete_of_compileProperty {clauses : List Clause}
    (h : compileProperty name d = .ok clauses) : d.Complete := by
  obtain ⟨own, parts, hown, hparts, -⟩ := clauses_of_compileProperty h
  have hboth := hparts.imp fun part fragment hpart =>
    And.intro (exists_clauses_iff.mp ⟨fragment, hpart.choose_spec⟩) hpart
  exact ⟨typeable_of_clauses hown, ((List.forall₂_and_left _ _).mp hboth).1⟩

/-- **A property is compiled exactly when its definition is complete.** -/
theorem exists_compileProperty_iff :
    (∃ clauses, compileProperty name d = .ok clauses) ↔ d.Complete :=
  ⟨fun ⟨_, h⟩ => complete_of_compileProperty h, exists_clauses_of_complete⟩

end

/-! ## 3. Tables -/

namespace RuleTable

/-- **When compilation fails, and where.**  It fails when some property but the id field is not
complete, and it fails as the first of them does.  What is required and what is omitted makes no
difference. -/
theorem compile_eq_error_iff (idField : String) (properties : OrderedMap Json) :
    ((∃ e, compile idField properties = .error e) ↔
      ∃ entry ∈ properties.entries, entry.1 ≠ idField ∧
        (¬entry.2.Typeable ∨ ∃ part ∈ entry.2.parts, ¬part.Typeable)) ∧
    (∀ e, compile idField properties = .error e ↔
      ∃ before name d after, properties.entries = before ++ (name, d) :: after ∧
        name ≠ idField ∧ (∀ entry ∈ before, entry.1 ≠ idField → entry.2.Complete) ∧
        UntypedAt name d e) ∧
    (∀ (required : List String) (omission : Omission) (e : UntypedProperty),
      (optionalRules idField properties = .error e ↔ compile idField properties = .error e) ∧
      (requiredRules idField properties required = .error e ↔
        compile idField properties = .error e) ∧
      (rulesWithout idField properties required omission = .error e ↔
        compile idField properties = .error e)) := by
  have hfirst : ∀ e, compile idField properties = .error e ↔
      ∃ before name d after, properties.entries = before ++ (name, d) :: after ∧
        name ≠ idField ∧ (∀ entry ∈ before, entry.1 ≠ idField → entry.2.Complete) ∧
        UntypedAt name d e := by
    intro e
    rw [compile, OrderedMap.traverse_filter_eq_error_iff]
    simp only [decide_eq_true_eq, exists_compileProperty_iff, compileProperty_eq_error_iff]
  refine ⟨?_, hfirst, fun required omission e => ?_⟩
  · constructor
    · rintro ⟨e, h⟩
      obtain ⟨before, name, d, after, hl, hid, -, huntyped⟩ := (hfirst e).mp h
      have hmem : (name, d) ∈ properties.entries := by
        rw [hl]
        exact List.mem_append_right _ List.mem_cons_self
      refine ⟨(name, d), hmem, hid, ?_⟩
      by_contra hnone
      push Not at hnone
      exact huntyped.not_complete hnone
    · rintro ⟨⟨name, d⟩, hmem, hid, hlack⟩
      cases hresult : compile idField properties with
      | error e => exact ⟨e, rfl⟩
      | ok table =>
        -- every property of a compiled table is complete
        have hget := (OrderedMap.get?_eq_some_iff properties name d).mpr hmem
        have hkept : (properties.filter (· ≠ idField)).get? name = some d := by
          rw [OrderedMap.get?_filter, if_pos (by simpa using hid)]
          exact hget
        obtain ⟨clauses, hclauses, -⟩ := OrderedMap.get?_of_traverse hresult hkept
        obtain ⟨hown, hparts⟩ := complete_of_compileProperty hclauses
        rcases hlack with hnot | ⟨part, hpart, hnot⟩
        · exact absurd hown hnot
        · exact absurd (hparts part hpart) hnot
  · rw [optionalRules, requiredRules, rulesWithout]
    cases compile idField properties <;> simp [Except.map]

/-- The second part of a definition has neither a type nor anything in place of one. -/
example : compile "id" (.ofList [("id", .null), ("code", .object [("allOf", .array [
    .object [("type", .string "string")], .object [("type", .null), ("minLength", .integer 2)]])])])
      = .error ⟨"code", (FieldPath.property "code").member 1⟩ := by
  decide +kernel

end RuleTable

end FieldRules

/-
# What a definition says about its property

A property is made from a definition, a name and a path.  What its rules read comes from the
definition alone, and this file says what that is, in terms of the definition:

* the definition that counts is the one under a `not`, if there is one (`Json.effective`);
* a definition can be typed when it has a `not`, or when the one that counts has a type, listed
  values or an `allOf` (`Json.Typeable`).  If so its property has a type, and if not its property
  fails with its own name and path (`type_ofDefinition`, `type_ofDefinition_of_not`);
* the definitions in an `allOf` that is an array are its parts (`Json.parts`), and the members of
  the property are the properties of the parts, in order (`members_ofDefinition`).

Whatever else is asked of a property hangs on its options and its modifier, and these are the
same for every name and path (`SameReading`).  Rules look at fewer things still, namely the
modifier and the values of the other keywords (`ReadsAlike`).
-/
import Mathlib
import FieldRules.Property

namespace FieldRules

namespace Json

/-! ## 1. Definitions -/

/-- The value of a keyword in a definition, if it is there and not null. -/
def keyword? (definition : Json) (key : Keyword) : Option Json :=
  option? definition.fields key.name

/-- The definition that counts: the one under a `not`, if there is one. -/
def effective (definition : Json) : Json := (definition.keyword? .not).getD definition

/-- Whether the type of a definition is given, or may be left out. -/
def Typeable (definition : Json) : Prop :=
  (definition.keyword? .not).isSome ∨ (definition.effective.keyword? .type).isSome ∨
    (definition.effective.keyword? .enum).isSome ∨ (definition.effective.keyword? .allOf).isSome

instance (definition : Json) : Decidable definition.Typeable :=
  inferInstanceAs (Decidable (_ ∨ _ ∨ _ ∨ _))

/-- The definitions that a definition is made of: those in its `allOf`, when that is an array. -/
def parts (definition : Json) : List Json :=
  ((definition.effective.keyword? .allOf).bind array?).getD []

/-- The text of the type of a definition, empty when it is left out or no text. -/
def typeText (definition : Json) : String :=
  ((definition.effective.keyword? .type).bind string?).getD ""

end Json

namespace Property

variable {name : String} {path : FieldPath} {d : Json}

/-! ## 2. Options and modifier -/

theorem effective_eq (d : Json) :
    effective d = (d.effective.fields, (d.keyword? .not).isSome) := by
  unfold effective Json.effective Json.keyword?
  cases Json.option? d.fields Keyword.not.name <;> rfl

theorem option?_ofDefinition (key : Keyword) :
    (ofDefinition name path d).option? key = d.effective.keyword? key := by
  simp only [ofDefinition, effective_eq, option?, optionNamed?]
  rfl

theorem modifier_ofDefinition :
    (ofDefinition name path d).modifier
      = if (d.effective.keyword? .allOf).isSome then some Modifier.allOf
        else if (d.keyword? .not).isSome then some Modifier.not else none := by
  simp only [ofDefinition, effective_eq]
  rfl

/-- A property may leave its type out for its modifier or its listed values. -/
theorem mayBeTypeless_ofDefinition :
    (ofDefinition name path d).mayBeTypeless = true ↔
      (d.keyword? .not).isSome ∨ (d.effective.keyword? .enum).isSome ∨
        (d.effective.keyword? .allOf).isSome := by
  rw [mayBeTypeless, hasOption, option?_ofDefinition, modifier_ofDefinition, Bool.or_eq_true]
  by_cases hall : (d.effective.keyword? .allOf).isSome
  · simp [hall]
  · by_cases hnot : (d.keyword? .not).isSome
    · simp [hall, hnot]
    · simp [hall, hnot]

/-! ## 3. The type -/

/-- **A definition that can be typed gives its property a type.** -/
theorem type_ofDefinition (h : d.Typeable) :
    (ofDefinition name path d).type = .ok d.typeText := by
  unfold type Json.typeText
  rw [option?_ofDefinition]
  cases htype : d.effective.keyword? .type with
  | some value => rfl
  | none =>
    have hfree : (ofDefinition name path d).mayBeTypeless = true := by
      rw [mayBeTypeless_ofDefinition]
      rcases h with hnot | htype' | henum | hall
      · exact .inl hnot
      · rw [htype] at htype'
        cases htype'
      · exact .inr (.inl henum)
      · exact .inr (.inr hall)
    simp only [hfree, if_true]
    rfl

/-- **A definition that cannot be typed fails** with the name and the path of its property. -/
theorem type_ofDefinition_of_not (h : ¬d.Typeable) :
    (ofDefinition name path d).type = .error ⟨name, path⟩ := by
  unfold type
  rw [option?_ofDefinition]
  cases htype : d.effective.keyword? .type with
  | some value => exact absurd (.inr (.inl (by rw [htype]; rfl))) h
  | none =>
    have hbound : (ofDefinition name path d).mayBeTypeless = false := by
      rw [Bool.eq_false_iff]
      intro hfree
      rcases mayBeTypeless_ofDefinition.mp hfree with hnot | henum | hall
      · exact h (.inl hnot)
      · exact h (.inr (.inr (.inl henum)))
      · exact h (.inr (.inr (.inr hall)))
    simp only [hbound]
    rfl

section Untyped

variable {p : Property} {e : UntypedProperty}

/-- A type is missing where none is given and none may be left out, and the failure names the
property and its place. -/
theorem type_eq_error_iff :
    p.type = .error e ↔
      p.option? .type = none ∧ p.mayBeTypeless = false ∧ e = ⟨p.name, p.path⟩ := by
  unfold type
  cases p.option? .type with
  | some value => simp
  | none => cases p.mayBeTypeless <;> simp [eq_comm]

/-- A property without a type lists no values. -/
theorem hasOption_enum_of_untyped (h : p.type = .error e) : p.hasOption .enum = false := by
  obtain ⟨-, hbound, -⟩ := type_eq_error_iff.mp h
  exact (Bool.or_eq_false_iff.mp hbound).2

end Untyped

/-! ## 4. Members -/

/-- Members are counted from the index given. -/
theorem membersFrom_eq_mapIdx (p : Property) : ∀ (l : List Json) (n : Nat),
    p.membersFrom n l
      = l.mapIdx fun i part => ofDefinition p.name (p.path.member (n + i)) part
  | [], _ => rfl
  | part :: rest, n => by
    rw [membersFrom, membersFrom_eq_mapIdx p rest (n + 1), List.mapIdx_cons]
    simp only [Nat.add_zero, Nat.add_assoc, Nat.add_comm 1]

/-- **The members of a property are the properties of the parts**, each at its index. -/
theorem members_ofDefinition :
    (ofDefinition name path d).members
      = d.parts.mapIdx fun i part => ofDefinition name (path.member i) part := by
  have hfrom := membersFrom_eq_mapIdx (ofDefinition name path d) d.parts 0
  simp only [Nat.zero_add] at hfrom
  rw [members, modifier_ofDefinition, option?_ofDefinition]
  by_cases hall : (d.effective.keyword? .allOf).isSome
  · rw [if_pos (by simp [hall])]
    exact hfrom
  · have hnone : d.effective.keyword? .allOf = none := by simpa using hall
    have hparts : d.parts = [] := by simp [Json.parts, hnone]
    rw [hparts, if_neg (by simp [hall])]
    rfl

/-! ## 5. Name and path -/

/-- Two properties with the same options and modifier: what their rules read is the same. -/
structure SameReading (p q : Property) : Prop where
  options_eq : p.options = q.options
  modifier_eq : p.modifier = q.modifier

theorem sameReading_ofDefinition (name other : String) (path place : FieldPath) (d : Json) :
    SameReading (ofDefinition name path d) (ofDefinition other place d) :=
  ⟨rfl, rfl⟩

/-! ## 6. What rules read -/

/-- Two properties of which rules read the same.  A rule looks at the modifier and at the values
of options, and never at `not` or `allOf`: these have done their work when the property is made. -/
structure ReadsAlike (p q : Property) : Prop where
  modifier_eq : p.modifier = q.modifier
  option_eq : ∀ key, key ≠ .not → key ≠ .allOf → p.option? key = q.option? key

theorem SameReading.readsAlike {p q : Property} (h : SameReading p q) : ReadsAlike p q := by
  refine ⟨h.modifier_eq, fun key _ _ => ?_⟩
  rw [option?, optionNamed?, h.options_eq]
  rfl

namespace ReadsAlike

variable {p q : Property}

theorem hasOption_eq (h : ReadsAlike p q) (key : Keyword) (hnot : key ≠ .not)
    (hall : key ≠ .allOf) : p.hasOption key = q.hasOption key := by
  rw [hasOption, hasOption, h.option_eq key hnot hall]

/-- Properties of one name and one path have the same type, or fail alike for want of one. -/
theorem type_eq (h : ReadsAlike p q) (hname : p.name = q.name) (hpath : p.path = q.path) :
    p.type = q.type := by
  have hfree : p.mayBeTypeless = q.mayBeTypeless := by
    rw [mayBeTypeless, mayBeTypeless, h.modifier_eq, h.hasOption_eq .enum nofun nofun]
  rw [type, type, h.option_eq .type nofun nofun, hfree, hname, hpath]

end ReadsAlike

end Property

end FieldRules

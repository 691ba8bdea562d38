/-
# A missing type, whoever asks for it first

Most kinds of rules look at the type of a property, each for itself; the two about listed values do
not.  On a property without a type all that look fail, and in the same words: with the name and the
path of the property (`applies_of_untyped`).  The other two are silent there, for a property that
lists its values may leave its type out (`applies_of_untyped_of_mem`).

So it makes no difference in which order kinds are tried.  Any list of them fails exactly when the
type is missing and some kind in the list looks at it (`evaluateAll_eq_error_iff`), and no kind ever
applies to a property without a type (`applies_eq_ok_true_iff`).
-/
import FieldRules.Proofs.Rule.Evaluation

namespace FieldRules

variable {p : Property} {e : UntypedProperty}

namespace Rule

/-! ## 1. One kind -/

theorem not_mem_enumKinds_iff {rule : Rule} :
    rule ∉ enumKinds ↔ rule ≠ .oneOf ∧ rule ≠ .noneOf := by
  simp [enumKinds]

/-- **A kind applies to properties with a type only**, also when it does not look at it. -/
theorem applies_eq_ok_true_iff {rule : Rule} :
    rule.applies p = .ok true ↔ ∃ type, p.type = .ok type ∧ rule.holds p type := by
  cases htype : p.type with
  | ok type =>
    rw [applies_of_type htype]
    simp
  | error e =>
    by_cases hrule : rule ∈ enumKinds
    · simp [applies_of_untyped_of_mem htype hrule]
    · simp [applies_of_untyped htype hrule]

/-! ## 2. Lists of kinds -/

/-- Kinds that do not look at the type are all silent without one. -/
theorem evaluateAll_of_silent (h : p.type = .error e) : ∀ {kinds : List Rule},
    (∀ rule ∈ kinds, rule ∈ enumKinds) → evaluateAll kinds p = .ok []
  | [], _ => rfl
  | rule :: rest, hsilent => by
    obtain ⟨hrule, hrest⟩ := List.forall_mem_cons.mp hsilent
    have ih := evaluateAll_of_silent h hrest
    simp [evaluateAll, evaluate_of_untyped_of_mem h hrule, ih]

/-- **A list of kinds fails for a missing type and for nothing else**, wherever in the list a kind
stands that looks at the type. -/
theorem evaluateAll_eq_error_iff (kinds : List Rule) :
    evaluateAll kinds p = .error e ↔
      p.type = .error e ∧ ∃ rule ∈ kinds, rule ∉ enumKinds := by
  cases htype : p.type with
  | ok type => simp [evaluateAll_of_type htype]
  | error e' =>
    by_cases hasks : ∃ rule ∈ kinds, rule ∉ enumKinds
    · rw [evaluateAll_of_untyped htype hasks]
      simp [hasks]
    · have hsilent : ∀ rule ∈ kinds, rule ∈ enumKinds := by simpa using hasks
      rw [evaluateAll_of_silent htype hsilent]
      simp [hasks]

/-! ## 3. Every property -/

/-- **A missing type is reported alike by all kinds of rules.**  With a type no kind fails.  Without
one every kind fails but the two about listed values, and all with the same failure, which names
the property and its path; these two say that there is nothing.  Hence a list of kinds, in whatever
order and with whatever repetitions, fails with a failure exactly when the type does and the list
has a kind that is not one of the two. -/
theorem missing_type_reported_alike (p : Property) :
    (∀ type, p.type = .ok type → ∀ rule : Rule,
      (∃ yes, rule.applies p = .ok yes) ∧ ∃ found, rule.evaluate p = .ok found) ∧
    (∀ e, p.type = .error e → e = ⟨p.name, p.path⟩ ∧
      (∀ rule : Rule, rule ≠ .oneOf → rule ≠ .noneOf →
        rule.applies p = .error e ∧ rule.evaluate p = .error e) ∧
      ∀ rule ∈ [oneOf, noneOf], rule.applies p = .ok false ∧ rule.evaluate p = .ok none) ∧
    (∀ (kinds : List Rule) (e : UntypedProperty), evaluateAll kinds p = .error e ↔
      p.type = .error e ∧ ∃ rule ∈ kinds, rule ≠ .oneOf ∧ rule ≠ .noneOf) := by
  refine ⟨fun type htype rule => ?_,
    fun e htype => ⟨?_, fun rule hone hnone => ?_, fun rule hrule => ?_⟩, fun kinds e => ?_⟩
  · exact ⟨⟨_, applies_of_type htype rule⟩, ⟨_, evaluate_of_type htype rule⟩⟩
  · exact (Property.type_eq_error_iff.mp htype).2.2
  · have hlooks : rule ∉ enumKinds := not_mem_enumKinds_iff.mpr ⟨hone, hnone⟩
    exact ⟨applies_of_untyped htype hlooks, evaluate_of_untyped htype hlooks⟩
  · exact ⟨applies_of_untyped_of_mem htype hrule, evaluate_of_untyped_of_mem htype hrule⟩
  · simp only [← not_mem_enumKinds_iff]
    exact evaluateAll_eq_error_iff kinds

/-! ### A part without a type -/

/-- The second part of a property, which has bounds and no type. -/
def untypedPart : Property :=
  .ofDefinition "size" ((FieldPath.property "size").member 1)
    (.object [("minimum", .integer 3), ("type", .null), ("enum", .null)])

/-- Where the type of the part is missing. -/
def untypedPartFailure : UntypedProperty :=
  ⟨"size", ⟨[.key "properties", .key "size", .key "allOf", .index 1]⟩⟩

theorem missing_type_reported_alike_untypedPart :
    untypedPart.type = .error untypedPartFailure ∧
      numeric.evaluate untypedPart = .error untypedPartFailure ∧
      email.evaluate untypedPart = .error untypedPartFailure ∧
      oneOf.evaluate untypedPart = .ok none ∧
      evaluateAll [oneOf, noneOf, oneOf, email, numeric] untypedPart = .error untypedPartFailure ∧
      evaluateAll [oneOf, noneOf, oneOf] untypedPart ≠ .error untypedPartFailure ∧
      ∃ found, email.evaluate (.topLevel "size" (.object [("not", .integer 3)])) = .ok found := by
  have htype : untypedPart.type = .error untypedPartFailure := by decide +kernel
  obtain ⟨-, huntyped, hlists⟩ := missing_type_reported_alike untypedPart
  obtain ⟨-, hlooks, hsilent⟩ := huntyped _ htype
  obtain ⟨htyped, -⟩ :=
    missing_type_reported_alike (.topLevel "size" (.object [("not", .integer 3)]))
  refine ⟨htype, (hlooks numeric nofun nofun).2, (hlooks email nofun nofun).2,
    (hsilent oneOf (by decide)).2, (hlists _ _).mpr ⟨htype, email, by decide, nofun, nofun⟩,
    fun hfails => ?_, (htyped "" (by decide +kernel) email).2⟩
  obtain ⟨-, hlooking⟩ := (hlists _ _).mp hfails
  revert hlooking
  decide

end Rule

end FieldRules

/-
# Bounds

Four kinds of rules speak of the bounds of a property: `between`, `max`, `min` and `size`.  Which of
them apply, and with which parameters, is decided by the two bounds under the keywords of the
property's own type.  `boundClauses` is the whole table: it has one line for each way in which a
bound may be absent and for equal and for different bounds, and `map_evaluate_bounding` says that
the four kinds, each of which finds the keywords and reads the bounds for itself, make that table
and no other.

Of two equal bounds only the lower one is written.  For scalars this makes no difference, for equal
scalars are written alike (`Json.parameter_eq_of_equal`); the two zeros are the one pair of numbers
that are equal without being the same.
-/
import FieldRules.Proofs.Clause.Parameter
import FieldRules.Proofs.Rule.Evaluation

namespace FieldRules

/-! ## 1. The table of bounds -/

/-- The clauses that `between`, `max`, `min` and `size` have for a lower and an upper bound. -/
def boundClauses : Option Json → Option Json → List (Option Clause)
  | none, none => [none, none, none, none]
  | some low, none => [none, none, some ⟨"min", [low.parameter]⟩, none]
  | none, some high => [none, some ⟨"max", [high.parameter]⟩, none, none]
  | some low, some high =>
    if low.equal high then [none, none, none, some ⟨"size", [low.parameter]⟩]
    else [some ⟨"between", [low.parameter, high.parameter]⟩, some ⟨"max", [high.parameter]⟩,
      some ⟨"min", [low.parameter]⟩, none]

/-- The keywords of the bounds of a type whose values have a size. -/
def boundKeywords? (type : String) : Option (Keyword × Keyword) :=
  if type = "string" then some (.minLength, .maxLength)
  else if type = "array" then some (.minItems, .maxItems)
  else if type ∈ ["integer", "number", "float"] then some (.minimum, .maximum)
  else none

namespace Rule

/-- The kinds of rules that speak of bounds, in order. -/
def bounding : List Rule := [between, max, min, size]

section

variable {p : Property} {type : String}

/-- A clause of bounds is written from the bounds that decided whether it is there. -/
theorem bounds_of_type (h : p.type = .ok type) : p.bounds = Bounds.of p type := by
  rw [Property.bounds, h]

theorem map_evaluate_of_sized (h : p.type = .ok type) (hsized : isSizedType type) :
    bounding.map (fun rule => rule.evaluate p)
      = (boundClauses (Bounds.of p type).low (Bounds.of p type).high).map .ok := by
  simp only [bounding, List.map_cons, List.map_nil, evaluate_of_type h, clause, bounds_of_type h,
    holds, hsized, Bool.true_and]
  obtain ⟨low, high⟩ := Bounds.of p type
  cases low with
  | none => cases high <;> simp [Bounds.distinct, boundClauses, boundParameter]
  | some low =>
    cases high with
    | none => simp [Bounds.distinct, boundClauses, boundParameter]
    | some high =>
      cases hequal : low.equal high <;>
        simp [Bounds.distinct, boundClauses, boundParameter, hequal]

theorem map_evaluate_of_unsized (h : p.type = .ok type) (hsized : isSizedType type = false) :
    bounding.map (fun rule => rule.evaluate p) = (boundClauses none none).map .ok := by
  simp [bounding, evaluate_of_type h, holds, hsized, boundClauses]

/-- The types that have bounds are the sized ones, and the bounds are under their keywords. -/
theorem of_boundKeywords?_eq_some {low high : Keyword} (h : boundKeywords? type = some (low, high))
    (p : Property) :
    isSizedType type ∧ Bounds.of p type = ⟨p.option? low, p.option? high⟩ := by
  unfold boundKeywords? at h
  split_ifs at h with hstring harray hnumeric
  · cases h
    simp [hstring, isSizedType, Bounds.of, Bounds.keywords]
  · cases h
    simp [harray, isSizedType, Bounds.of, Bounds.keywords]
  · cases h
    simp only [Bounds.of, Bounds.keywords, if_neg hstring, if_neg harray, and_true]
    simpa [isSizedType, isNumericType, hstring, harray, or_assoc] using hnumeric

theorem isSizedType_of_boundKeywords?_eq_none (h : boundKeywords? type = none) :
    isSizedType type = false := by
  unfold boundKeywords? at h
  split_ifs at h with hstring harray hnumeric
  simpa [isSizedType, isNumericType, hstring, harray, and_assoc] using hnumeric

end

/-! ## 2. Every case -/

/-- **The rules of bounds share out every case.**  For a property with a type, the clauses of
`between`, `max`, `min` and `size` are those of the table for the two bounds under the keywords of
its type; a type without such keywords has none of the four.  Bounds under the keywords of other
types change nothing.  The upper of two equal bounds that are scalars would be written as the lower
one is. -/
theorem map_evaluate_bounding (p : Property) (type : String) (h : p.type = .ok type) :
    (∀ low high, boundKeywords? type = some (low, high) →
      bounding.map (fun rule => rule.evaluate p)
        = (boundClauses (p.option? low) (p.option? high)).map .ok) ∧
    (boundKeywords? type = none →
      bounding.map (fun rule => rule.evaluate p) = [.ok none, .ok none, .ok none, .ok none]) ∧
    (∀ q : Property, q.type = .ok type →
      (∀ low high, boundKeywords? type = some (low, high) →
        q.option? low = p.option? low ∧ q.option? high = p.option? high) →
      bounding.map (fun rule => rule.evaluate q) = bounding.map fun rule => rule.evaluate p) ∧
    (∀ low high : Json, low.isScalar → low.equal high →
      Clause.text ⟨"size", [low.parameter]⟩ = Clause.text ⟨"size", [high.parameter]⟩) := by
  have hsized : ∀ (q : Property), q.type = .ok type → ∀ low high,
      boundKeywords? type = some (low, high) → bounding.map (fun rule => rule.evaluate q)
        = (boundClauses (q.option? low) (q.option? high)).map .ok := by
    intro q hq low high hkeys
    obtain ⟨hsized, hbounds⟩ := of_boundKeywords?_eq_some hkeys q
    have htable := map_evaluate_of_sized hq hsized
    rwa [hbounds] at htable
  have hunsized : ∀ (q : Property), q.type = .ok type → boundKeywords? type = none →
      bounding.map (fun rule => rule.evaluate q) = [.ok none, .ok none, .ok none, .ok none] :=
    fun q hq hkeys => map_evaluate_of_unsized hq (isSizedType_of_boundKeywords?_eq_none hkeys)
  refine ⟨hsized p h, hunsized p h, fun q hq hsame => ?_, fun low high hscalar hequal => ?_⟩
  · cases hkeys : boundKeywords? type with
    | none => rw [hunsized q hq hkeys, hunsized p h hkeys]
    | some keys =>
      obtain ⟨low, high⟩ := keys
      obtain ⟨hlow, hhigh⟩ := hsame low high hkeys
      rw [hsized q hq low high hkeys, hsized p h low high hkeys, hlow, hhigh]
  · rw [Json.parameter_eq_of_equal hscalar hequal]

/-! ### Two numbers and a text

The bounds of `level` are the two zeros, which are equal; those of `mark` are an integer and a
float, which never are.  Both have bounds of another type besides. -/

/-- A number whose bounds are zeros of different signs. -/
def levelProperty : Property :=
  .topLevel "level" (.object [("type", .string "number"), ("minimum", .float (.zero true)),
    ("maximum", .float (.zero false)), ("minLength", .integer 3)])

/-- The same without bounds of another type. -/
def plainLevelProperty : Property :=
  .topLevel "level" (.object [("type", .string "number"), ("minimum", .float (.zero true)),
    ("maximum", .float (.zero false))])

/-- A text whose bounds look alike. -/
def markProperty : Property :=
  .topLevel "mark" (.object [("type", .string "string"), ("minLength", .integer 0),
    ("maxLength", .float (.zero false)), ("maxItems", .integer 1)])

theorem map_evaluate_bounding_level :
    levelProperty.type = .ok "number" ∧
      bounding.map (fun rule => rule.evaluate levelProperty)
        = [.ok none, .ok none, .ok none, .ok (some ⟨"size", ["0"]⟩)] ∧
      bounding.map (fun rule => rule.evaluate plainLevelProperty)
        = bounding.map (fun rule => rule.evaluate levelProperty) ∧
      Clause.text ⟨"size", [(Json.float (.zero true)).parameter]⟩
        = Clause.text ⟨"size", [(Json.float (.zero false)).parameter]⟩ ∧
      markProperty.type = .ok "string" ∧
      bounding.map (fun rule => rule.evaluate markProperty)
        = [.ok (some ⟨"between", ["0", "0"]⟩), .ok (some ⟨"max", ["0"]⟩),
            .ok (some ⟨"min", ["0"]⟩), .ok none] := by
  have htype : levelProperty.type = .ok "number" := by decide +kernel
  have htype' : markProperty.type = .ok "string" := by decide +kernel
  obtain ⟨htable, -, hsame, hscalar⟩ := map_evaluate_bounding levelProperty "number" htype
  obtain ⟨htable', -⟩ := map_evaluate_bounding markProperty "string" htype'
  refine ⟨htype, ?_, ?_, hscalar _ _ (by decide) (by decide +kernel), htype', ?_⟩
  · exact (htable .minimum .maximum (by decide +kernel)).trans (by decide +kernel)
  · refine hsame plainLevelProperty (by decide +kernel) fun low high hkeys => ?_
    have hkeys' : boundKeywords? "number" = some (.minimum, .maximum) := by decide +kernel
    rw [hkeys'] at hkeys
    cases hkeys
    decide +kernel
  · exact (htable' .minLength .maxLength (by decide +kernel)).trans (by decide +kernel)

end Rule

end FieldRules

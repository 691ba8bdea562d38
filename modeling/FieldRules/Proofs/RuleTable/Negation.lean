/-
# What stands under a `not`

A `not` is there to deny what stands under it, and as long as no `allOf` stands there it does: such
a property always compiles, no clause of it asserts listed values or a pattern
(`Clause.Asserts`), and what is listed or matched under the `not` comes out as `not_in` and
`not_regex`.

An `allOf` under the `not` takes its place as the modifier, and the options stay where they are.
Then nothing is denied any more: the property is compiled as the definition under the `not` would be
by itself (`topLevel_of_not_of_allOf`), and listed values come out as `in`.
-/
import FieldRules.Proofs.RuleTable.Omission

namespace FieldRules

/-! ## 1. Clauses that assert -/

/-- A clause that asserts listed values or a pattern. -/
def Clause.Asserts (c : Clause) : Prop :=
  c.name ∈ ["in", "regex", "alpha", "alpha_dash", "alpha_num", "starts_with"]

instance (c : Clause) : Decidable c.Asserts := inferInstanceAs (Decidable (_ ∈ _))

namespace Rule

/-- Only two kinds of rules have clauses that assert. -/
theorem eq_of_asserts {rule : Rule} {p : Property} (h : (rule.clause p).Asserts) :
    rule = .oneOf ∨ rule = .regex := by
  have hnames : rule ≠ .oneOf → rule ≠ .regex → ∀ name ∈ rule.clauseNames,
      name ∉ ["in", "regex", "alpha", "alpha_dash", "alpha_num", "starts_with"] := by
    cases rule <;> decide
  by_contra hne
  rw [not_or] at hne
  exact hnames hne.1 hne.2 _ (rule.name_clause_mem p) h

/-- The clause of a pattern asserts it, whatever the pattern. -/
theorem asserts_clause_pattern (pattern : String) : (Pattern.clause pattern).Asserts := by
  have hnames : ∀ name ∈ Rule.regex.clauseNames,
      name ∈ ["in", "regex", "alpha", "alpha_dash", "alpha_num", "starts_with"] := by decide
  exact hnames _ (Pattern.name_clause_mem pattern)

/-- Nothing is asserted of a property that denies. -/
theorem not_asserts_of_denies {rule : Rule} {p : Property} {type : String} (hdenies : p.denies)
    (hholds : rule.holds p type) : ¬(rule.clause p).Asserts := by
  intro hasserts
  rcases eq_of_asserts hasserts with rfl | rfl <;> simp [holds, hdenies] at hholds

end Rule

/-- What a list of values, or a single value, is written as. -/
def Json.listedParameters : Json → List String
  | .array items => items.map Json.parameter
  | value => [value.parameter]

/-! ## 2. Reading a definition under a `not` -/

namespace Property

variable {name : String} {path : FieldPath} {d inner : Json}

theorem effective_of_not (h : d.keyword? .not = some inner) : d.effective = inner := by
  rw [Json.effective, h]
  rfl

theorem typeable_of_not (h : d.keyword? .not = some inner) : d.Typeable :=
  .inl (by rw [h]; rfl)

/-- Under a `not` things are denied unless an `allOf` stands there. -/
theorem denies_of_not (h : d.keyword? .not = some inner) :
    (ofDefinition name path d).denies = (inner.keyword? .allOf).isNone := by
  rw [denies, modifier_ofDefinition, effective_of_not h, h]
  cases inner.keyword? .allOf <;> rfl

/-- The clauses of a definition under a `not`, the property's own. -/
theorem clauses_of_not (h : d.keyword? .not = some inner) :
    (ofDefinition name path d).clauses
      = .ok ((Rule.all.filter fun rule => rule.holds (.ofDefinition name path d) d.typeText).map
          fun rule => rule.clause (.ofDefinition name path d)) :=
  clauses_of_type (type_ofDefinition (typeable_of_not h))

/-- **An `allOf` under a `not` takes the place of the `not`.**  The property is the one that the
definition under the `not` makes by itself, if that has no `not` of its own. -/
theorem topLevel_of_not_of_allOf (h : d.keyword? .not = some inner)
    (hall : (inner.keyword? .allOf).isSome) (hplain : inner.keyword? .not = none) :
    topLevel name d = topLevel name inner := by
  have hinner : inner.effective = inner := by
    rw [Json.effective, hplain]
    rfl
  have hoptions : (effective d).1 = (effective inner).1 := by
    rw [effective_eq, effective_eq, effective_of_not h, hinner]
  have hmodifier : (topLevel name d).modifier = (topLevel name inner).modifier := by
    rw [topLevel, topLevel, modifier_ofDefinition, modifier_ofDefinition, effective_of_not h,
      hinner, if_pos hall, if_pos hall]
  unfold topLevel ofDefinition at hmodifier ⊢
  dsimp only at hmodifier ⊢
  rw [hmodifier, hoptions]

section

variable {value : Json}

theorem enumParameters_of_option? {p : Property} (h : p.option? .enum = some value) :
    p.enumParameters = value.listedParameters := by
  rw [enumParameters, h]
  cases value <;> rfl

theorem enumParameters_of_not (h : d.keyword? .not = some inner)
    (hvalue : inner.keyword? .enum = some value) :
    (ofDefinition name path d).enumParameters = value.listedParameters := by
  refine enumParameters_of_option? ?_
  rw [option?_ofDefinition, effective_of_not h, hvalue]

theorem hasOption_of_not (h : d.keyword? .not = some inner) {key : Keyword}
    (hvalue : inner.keyword? key = some value) : (ofDefinition name path d).hasOption key := by
  rw [hasOption, option?_ofDefinition, effective_of_not h, hvalue]
  rfl

theorem parameter_of_not (h : d.keyword? .not = some inner) {key : Keyword}
    (hvalue : inner.keyword? key = some value) :
    (ofDefinition name path d).parameter key = value.parameter := by
  rw [parameter, option?_ofDefinition, effective_of_not h, hvalue]
  rfl

end

end Property

/-- A definition without parts has its own clauses and no others. -/
theorem compileProperty_of_no_parts (name : String) {d : Json} (h : d.parts = []) :
    compileProperty name d = (Property.topLevel name d).clauses := by
  have hmembers : (Property.topLevel name d).members = [] := by
    rw [Property.topLevel, Property.members_ofDefinition, h]
    rfl
  rw [compileProperty, hmembers, clausesOfAll, clausesOfAll]
  cases (Property.topLevel name d).clauses with
  | error e => rfl
  | ok clauses => simp

/-- Each kind that holds has its clause among those of the property. -/
theorem mem_compileProperty_of_holds {name : String} {d : Json} {clauses : List Clause}
    (h : compileProperty name d = .ok clauses) (rule : Rule)
    (hholds : rule.holds (.topLevel name d) d.typeText) :
    rule.clause (.topLevel name d) ∈ clauses := by
  obtain ⟨own, parts, hown, -, rfl⟩ := clauses_of_compileProperty h
  have htype : (Property.topLevel name d).type = .ok d.typeText :=
    Property.type_ofDefinition (typeable_of_clauses hown)
  rw [Property.clauses_of_type htype] at hown
  cases hown
  refine List.mem_append_left _ (List.mem_map_of_mem ?_)
  exact List.mem_filter.mpr ⟨Rule.mem_all rule, hholds⟩

/-! ## 3. Denied or not -/

section

variable {name : String} {d inner value : Json} {clauses : List Clause}

/-- A definition under a `not` without an `allOf` compiles, and nothing is asserted. -/
theorem exists_not_asserts_of_not (name : String) (h : d.keyword? .not = some inner)
    (hall : inner.keyword? .allOf = none) :
    ∃ clauses, compileProperty name d = .ok clauses ∧ ∀ c ∈ clauses, ¬c.Asserts := by
  have hparts : d.parts = [] := by
    rw [Json.parts, Property.effective_of_not h, hall]
    rfl
  have hdenies : (Property.topLevel name d).denies := by
    rw [Property.topLevel, Property.denies_of_not h, hall]
    rfl
  refine ⟨_, (compileProperty_of_no_parts name hparts).trans (Property.clauses_of_not h),
    fun c hc => ?_⟩
  obtain ⟨rule, hrule, rfl⟩ := List.mem_map.mp hc
  exact Rule.not_asserts_of_denies hdenies (List.mem_filter.mp hrule).2

/-- What is listed under a `not` is denied, or asserted if an `allOf` stands there. -/
theorem listed_mem_of_not (h : d.keyword? .not = some inner)
    (hcompile : compileProperty name d = .ok clauses)
    (hvalue : inner.keyword? .enum = some value) :
    ⟨if (inner.keyword? .allOf).isNone then "not_in" else "in", value.listedParameters⟩
      ∈ clauses := by
  have hthere : (Property.topLevel name d).hasOption .enum := Property.hasOption_of_not h hvalue
  have hparams : (Property.topLevel name d).enumParameters = value.listedParameters :=
    Property.enumParameters_of_not h hvalue
  have hdenies : (Property.topLevel name d).denies = (inner.keyword? .allOf).isNone :=
    Property.denies_of_not h
  rw [← hdenies, ← hparams]
  cases hpolarity : (Property.topLevel name d).denies with
  | true =>
    have hholds : Rule.noneOf.holds (.topLevel name d) d.typeText := by
      simp [Rule.holds, hthere, hpolarity]
    exact mem_compileProperty_of_holds hcompile .noneOf hholds
  | false =>
    have hholds : Rule.oneOf.holds (.topLevel name d) d.typeText := by
      simp [Rule.holds, hthere, hpolarity]
    exact mem_compileProperty_of_holds hcompile .oneOf hholds

/-- So is what a pattern matches, in a string. -/
theorem pattern_mem_of_not (h : d.keyword? .not = some inner)
    (hcompile : compileProperty name d = .ok clauses)
    (hvalue : inner.keyword? .pattern = some value)
    (htype : inner.keyword? .type = some (.string "string")) :
    (if (inner.keyword? .allOf).isNone then ⟨"not_regex", [value.parameter]⟩
      else Pattern.clause value.parameter) ∈ clauses := by
  have hstring : d.typeText = "string" := by
    rw [Json.typeText, Property.effective_of_not h, htype]
    rfl
  have hthere : (Property.topLevel name d).hasOption .pattern :=
    Property.hasOption_of_not h hvalue
  have hparam : (Property.topLevel name d).parameter .pattern = value.parameter :=
    Property.parameter_of_not h hvalue
  have hdenies : (Property.topLevel name d).denies = (inner.keyword? .allOf).isNone :=
    Property.denies_of_not h
  rw [← hdenies, ← hparam]
  cases hpolarity : (Property.topLevel name d).denies with
  | true =>
    have hholds : Rule.notRegex.holds (.topLevel name d) d.typeText := by
      simp [Rule.holds, TypeFamily.holds, hstring, hthere, hpolarity]
    exact mem_compileProperty_of_holds hcompile .notRegex hholds
  | false =>
    have hholds : Rule.regex.holds (.topLevel name d) d.typeText := by
      simp [Rule.holds, TypeFamily.holds, hstring, hthere, hpolarity]
    exact mem_compileProperty_of_holds hcompile .regex hholds

end

/-- **A `not` denies what stands under it unless an `allOf` stands there.**  Without an `allOf` the
property compiles, nothing is asserted, and listed values and the pattern of a string are denied.
With an `allOf` that is not null, whatever its value, the property is compiled as the definition
under the `not` is by itself, if that has no `not` of its own; and in a property that compiles,
listed values and the pattern of a string are asserted. -/
theorem compileProperty_of_not (name : String) (d inner : Json)
    (h : d.keyword? .not = some inner) :
    (inner.keyword? .allOf = none → ∃ clauses, compileProperty name d = .ok clauses ∧
      (∀ c ∈ clauses, ¬c.Asserts) ∧
      (∀ value, inner.keyword? .enum = some value →
        ⟨"not_in", value.listedParameters⟩ ∈ clauses) ∧
      (∀ value, inner.keyword? .pattern = some value →
        inner.keyword? .type = some (.string "string") →
        ⟨"not_regex", [value.parameter]⟩ ∈ clauses)) ∧
    ((inner.keyword? .allOf).isSome →
      (inner.keyword? .not = none → compileProperty name d = compileProperty name inner) ∧
      ∀ clauses, compileProperty name d = .ok clauses →
        (∀ value, inner.keyword? .enum = some value →
          ⟨"in", value.listedParameters⟩ ∈ clauses) ∧
        (∀ value, inner.keyword? .pattern = some value →
          inner.keyword? .type = some (.string "string") →
          Pattern.clause value.parameter ∈ clauses ∧
            (Pattern.clause value.parameter).Asserts)) := by
  constructor
  · intro hall
    obtain ⟨clauses, hcompile, hnone⟩ := exists_not_asserts_of_not name h hall
    refine ⟨clauses, hcompile, hnone, fun value hvalue => ?_, fun value hvalue htype => ?_⟩
    · simpa [hall] using listed_mem_of_not h hcompile hvalue
    · simpa [hall] using pattern_mem_of_not h hcompile hvalue htype
  · intro hall
    have hpolarity : (inner.keyword? .allOf).isNone = false := by simpa using hall
    refine ⟨fun hplain => ?_, fun clauses hcompile =>
      ⟨fun value hvalue => ?_, fun value hvalue htype => ?_⟩⟩
    · rw [compileProperty, compileProperty, Property.topLevel_of_not_of_allOf h hall hplain]
    · have hmem := listed_mem_of_not h hcompile hvalue
      rwa [hpolarity] at hmem
    · have hmem := pattern_mem_of_not h hcompile hvalue htype
      rw [hpolarity] at hmem
      exact ⟨hmem, Rule.asserts_clause_pattern _⟩

/-! ### Two definitions

They differ in an empty `allOf` under the `not`. -/

/-- What is denied: two listed values and a pattern. -/
def deniedDefinition : Json :=
  .object [("type", .string "string"), ("enum", .array [.string "a", .integer 1]),
    ("pattern", .string "^b$")]

/-- The same with an `allOf` besides. -/
def splitDefinition : Json :=
  .object [("type", .string "string"), ("enum", .array [.string "a", .integer 1]),
    ("pattern", .string "^b$"), ("allOf", .array [])]

theorem compileProperty_of_not_denied :
    (Json.object [("not", deniedDefinition)]).keyword? .not = some deniedDefinition ∧
      (∃ clauses, compileProperty "code" (.object [("not", deniedDefinition)]) = .ok clauses ∧
        (∀ c ∈ clauses, ¬c.Asserts) ∧ ⟨"not_in", ["a", "1"]⟩ ∈ clauses ∧
        ⟨"not_regex", ["^b$"]⟩ ∈ clauses) ∧
      compileProperty "code" (.object [("not", splitDefinition)])
        = compileProperty "code" splitDefinition := by
  have hnot : (Json.object [("not", deniedDefinition)]).keyword? .not = some deniedDefinition := by
    decide +kernel
  have hsplit : (Json.object [("not", splitDefinition)]).keyword? .not = some splitDefinition := by
    decide +kernel
  obtain ⟨hdenied, -⟩ := compileProperty_of_not "code" _ _ hnot
  obtain ⟨-, hasserted⟩ := compileProperty_of_not "code" _ _ hsplit
  obtain ⟨clauses, hcompile, hnone, henum, hpattern⟩ := hdenied (by decide +kernel)
  refine ⟨hnot, ⟨clauses, hcompile, hnone, ?_, ?_⟩, (hasserted (by decide +kernel)).1 ?_⟩
  · exact henum (.array [.string "a", .integer 1]) (by decide +kernel)
  · exact hpattern (.string "^b$") (by decide +kernel) (by decide +kernel)
  · decide +kernel

/-- **Under a `not` with an `allOf` things are asserted** that without it would be denied. -/
theorem asserted_under_not :
    (Json.object [("not", splitDefinition)]).keyword? .not = some splitDefinition ∧
      compileProperty "code" (.object [("not", splitDefinition)])
        = .ok [⟨"in", ["a", "1"]⟩, ⟨"starts_with", ["b$"]⟩] ∧
      (⟨"in", ["a", "1"]⟩ : Clause).Asserts ∧ (⟨"starts_with", ["b$"]⟩ : Clause).Asserts := by
  decide +kernel

end FieldRules

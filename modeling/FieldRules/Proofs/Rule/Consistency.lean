/-
# The rules of one definition go together

Each kind of rule decides for itself whether it applies, and nothing looks at two kinds at once.
Still no property gets clauses that contradict each other (`Consistent`), and this file says what
keeps the kinds apart:

* most kinds apply to types of certain families only, and no type is in two families
  (`TypeFamily.eq_of_holds`, `Rule.Unrelated.not_holds`);
* a format is asked for by one kind (`Rule.pairwise_formatKinds`);
* listed values and patterns are asserted or denied, hence not both;
* `size` is for equal bounds, and the other three kinds are for bounds that differ.

These are facts about kinds.  They become facts about clauses because the name of a clause tells its
kind (`Rule.ofClauseName?_of_mem`), so that no name comes from two kinds and none comes twice.
-/
import FieldRules.Proofs.RuleTable.Omission

namespace FieldRules

/-! ## 1. Lists of names -/

/-- At most one name of a group is among the names. -/
def AtMostOneOf (group names : List String) : Prop :=
  ∀ a ∈ group, ∀ b ∈ group, a ∈ names → b ∈ names → a = b

/-- No name of one group is among the names together with a name of the other. -/
def NeverTogether (group others names : List String) : Prop :=
  ∀ a ∈ group, ∀ b ∈ others, a ∈ names → b ∉ names

/-- The names of the clauses for the format of a text. -/
def formatNames : List String := ["date", "date_format", "email", "url", "ip"]

/-- The names of the clauses for a pattern. -/
def patternNames : List String :=
  ["regex", "alpha", "alpha_dash", "alpha_num", "starts_with", "not_regex"]

/-- The names of clauses that do not contradict each other. -/
structure Consistent (names : List String) : Prop where
  nodup : names.Nodup
  one_type : AtMostOneOf ["numeric", "boolean", "array"] names
  one_format : AtMostOneOf formatNames names
  one_enum : AtMostOneOf ["in", "not_in"] names
  one_pattern : AtMostOneOf patternNames names
  size_alone : NeverTogether ["size"] ["min", "max", "between"] names
  between_iff : "between" ∈ names ↔ "min" ∈ names ∧ "max" ∈ names
  array_of_distinct : "distinct" ∈ names → "array" ∈ names
  numeric_of_multiple : "multiple_of" ∈ names → "numeric" ∈ names
  text_apart : NeverTogether (formatNames ++ "image" :: patternNames)
    ["numeric", "boolean", "array", "distinct", "multiple_of"] names
  boolean_unbounded : NeverTogether ["boolean"] ["min", "max", "between", "size"] names

/-! ## 2. Families of types -/

/-- The types of a family. -/
def TypeFamily.types : TypeFamily → List String
  | string => ["string"]
  | boolean => ["boolean"]
  | array => ["array"]
  | numeric => ["integer", "number", "float"]
  | any => ["string", "boolean", "array", "integer", "number", "float"]

theorem TypeFamily.holds_iff_mem_types (family : TypeFamily) (type : String) :
    family.holds type = true ↔ type ∈ family.types := by
  cases family <;> simp [holds, types, isSizedType, isNumericType] <;> tauto

/-- **A type is in one family**, `any` aside, which is made of the others. -/
theorem TypeFamily.eq_of_holds {family other : TypeFamily} {type : String} (h : family.holds type)
    (h' : other.holds type) (hany : family ≠ .any) (hany' : other ≠ .any) : family = other := by
  have hdisjoint : ∀ t ∈ family.types, t ∈ other.types → family = other := by
    cases family <;> cases other <;> first | exact absurd rfl hany | exact absurd rfl hany' | decide
  exact hdisjoint type ((holds_iff_mem_types _ _).mp h) ((holds_iff_mem_types _ _).mp h')

namespace Rule

variable {p : Property} {type : String}

/-- The families of types that a kind of rule applies to; for a kind that does not look at the type
there is nothing to list. -/
def families : Rule → List TypeFamily
  | numeric | multipleOf => [.numeric]
  | boolean => [.boolean]
  | array | distinct => [.array]
  | min | max | between | size => [.string, .array, .numeric]
  | date | dateFormat | email | url | ipAddress | image | regex | notRegex => [.string]
  | oneOf | noneOf => []

theorem any_not_mem_families (rule : Rule) : .any ∉ rule.families := by
  cases rule <;> decide

/-- The types whose values have a size are of three families. -/
theorem exists_family_of_sized (h : isSizedType type) :
    ∃ family ∈ [TypeFamily.string, .array, .numeric], family.holds type := by
  simp only [isSizedType, Bool.or_eq_true, decide_eq_true_eq] at h
  rcases h with (h | h) | h
  · exact ⟨.numeric, by decide, h⟩
  · exact ⟨.string, by decide, decide_eq_true h⟩
  · exact ⟨.array, by decide, decide_eq_true h⟩

/-- **A kind that looks at the type applies to types of its families only.** -/
theorem exists_family_of_holds {rule : Rule} (hlooks : rule ∉ enumKinds) (h : rule.holds p type) :
    ∃ family ∈ rule.families, family.holds type := by
  cases rule with
  | oneOf | noneOf => exact absurd (by decide) hlooks
  | numeric | boolean | array => exact ⟨_, List.mem_cons_self, h⟩
  | min | max | between | size =>
    simp only [holds, Bool.and_eq_true] at h
    exact exists_family_of_sized (by tauto)
  | _ =>
    simp only [holds, Bool.and_eq_true] at h
    exact ⟨_, List.mem_cons_self, by tauto⟩

/-- Two kinds that look at the type and have no family in common. -/
def Unrelated (rule other : Rule) : Prop :=
  rule ∉ enumKinds ∧ other ∉ enumKinds ∧ ∀ family ∈ rule.families, family ∉ other.families

instance (rule other : Rule) : Decidable (rule.Unrelated other) :=
  inferInstanceAs (Decidable (_ ∧ _ ∧ _))

/-- **Unrelated kinds do not apply together.** -/
theorem Unrelated.not_holds {rule other : Rule} (hunrelated : rule.Unrelated other)
    (h : rule.holds p type) : ¬other.holds p type := by
  obtain ⟨hlooks, hlooks', hdisjoint⟩ := hunrelated
  intro h'
  obtain ⟨family, hfamily, hholds⟩ := exists_family_of_holds hlooks h
  obtain ⟨family', hfamily', hholds'⟩ := exists_family_of_holds hlooks' h'
  have heq : family = family' := TypeFamily.eq_of_holds hholds hholds'
    (fun hany => any_not_mem_families rule (hany ▸ hfamily))
    (fun hany => any_not_mem_families other (hany ▸ hfamily'))
  exact hdisjoint family hfamily (heq ▸ hfamily')

/-! ## 3. Formats, denials and bounds -/

/-- The formats that a kind asks for. -/
def formats : Rule → List String
  | date => ["date", "date-time"]
  | dateFormat => ["full-date full-time", "full-date", "full-time"]
  | email => ["email"]
  | url => ["uri"]
  | ipAddress => ["ipv4", "ipv6"]
  | _ => []

/-- The kinds that ask for a format. -/
def formatKinds : List Rule := [date, dateFormat, email, url, ipAddress]

theorem exists_format_of_holds {rule : Rule} (hrule : rule ∈ formatKinds)
    (h : rule.holds p type) : ∃ format ∈ rule.formats, p.text? .format = some format := by
  have hread : ∀ test : String → Bool, p.hasFormat test →
      (∀ format, test format → format ∈ rule.formats) →
        ∃ format ∈ rule.formats, p.text? .format = some format := by
    intro test htest hformats
    obtain ⟨format, hformat, hpass⟩ := (Option.any_eq_true _ _).mp htest
    exact ⟨format, hformats format hpass, hformat⟩
  simp only [formatKinds, List.mem_cons, List.not_mem_nil, or_false] at hrule
  rcases hrule with rfl | rfl | rfl | rfl | rfl
  all_goals
    simp only [holds, Bool.and_eq_true] at h
    refine hread _ h.2 fun format hformat => ?_
  · simpa [formats] using hformat
  · simp only [dateLayout?] at hformat
    split_ifs at hformat <;> simp_all [formats]
  all_goals simpa [formats] using hformat

/-- **A format is asked for by one kind.** -/
theorem pairwise_formatKinds :
    formatKinds.Pairwise fun rule other => rule.holds p type → ¬other.holds p type := by
  have hdisjoint : formatKinds.Pairwise fun rule other =>
      ∀ format ∈ rule.formats, format ∉ other.formats := by decide
  refine hdisjoint.imp_of_mem fun {rule other} hrule hother hformats h h' => ?_
  obtain ⟨format, hformat, htext⟩ := exists_format_of_holds hrule h
  obtain ⟨format', hformat', htext'⟩ := exists_format_of_holds hother h'
  obtain rfl : format = format' := Option.some.inj (htext.symm.trans htext')
  exact hformats format hformat hformat'

/-- Listed values that are asserted are not denied. -/
theorem not_holds_noneOf (h : oneOf.holds p type) : ¬noneOf.holds p type := by
  simp only [holds, Bool.and_eq_true, Bool.not_eq_true'] at h ⊢
  simp [h.2]

/-- Nor is a pattern. -/
theorem not_holds_notRegex (h : regex.holds p type) : ¬notRegex.holds p type := by
  simp only [holds, Bool.and_eq_true, Bool.not_eq_true'] at h ⊢
  simp [h.2]

/-- Equal bounds are not bounds that differ. -/
theorem not_holds_of_size : ∀ rule ∈ [size], ∀ other ∈ [min, max, between],
    rule.holds p type → ¬other.holds p type := by
  intro rule hrule other hother h
  obtain rfl := List.mem_singleton.mp hrule
  simp only [holds, Bool.and_eq_true, Bool.not_eq_true'] at h
  revert other
  simp [holds, h.2]

/-- `between` is for bounds that differ and are both there. -/
theorem holds_between_iff : between.holds p type ↔ min.holds p type ∧ max.holds p type := by
  simp only [holds, Bool.and_eq_true]
  tauto

theorem holds_array_of_distinct (h : distinct.holds p type) : array.holds p type := by
  simp only [holds, Bool.and_eq_true] at h
  exact h.1

theorem holds_numeric_of_multipleOf (h : multipleOf.holds p type) : numeric.holds p type := by
  simp only [holds, Bool.and_eq_true] at h
  exact h.1

/-! ## 4. From kinds to names -/

/-- The kind of rule whose clauses have a name. -/
def ofClauseName? (name : String) : Option Rule :=
  all.find? fun rule => rule.clauseNames.contains name

/-- **The name of a clause tells its kind.** -/
theorem ofClauseName?_of_mem {rule : Rule} {name : String} (h : name ∈ rule.clauseNames) :
    ofClauseName? name = some rule := by
  have hnames : ∀ name ∈ rule.clauseNames, ofClauseName? name = some rule := by
    cases rule <;> decide +kernel
  exact hnames name h

theorem eq_of_mem_clauseNames {rule other : Rule} {name : String} (h : name ∈ rule.clauseNames)
    (h' : name ∈ other.clauseNames) : rule = other :=
  Option.some.inj ((ofClauseName?_of_mem h).symm.trans (ofClauseName?_of_mem h'))

end Rule

namespace Property

open Rule

variable {p : Property} {type : String}

/-- The names of the clauses that a property has for a type. -/
def clauseNames (p : Property) (type : String) : List String :=
  (Rule.all.filter fun rule => rule.holds p type).map fun rule => (rule.clause p).name

/-- A name among those of a property is there because its kind applies. -/
theorem mem_clauseNames_iff {rule : Rule} {name : String} (hname : name ∈ rule.clauseNames) :
    name ∈ p.clauseNames type ↔ rule.holds p type ∧ (rule.clause p).name = name := by
  simp only [clauseNames, List.mem_map, List.mem_filter]
  constructor
  · rintro ⟨other, ⟨-, hholds⟩, rfl⟩
    obtain rfl : rule = other := eq_of_mem_clauseNames hname (name_clause_mem other p)
    exact ⟨hholds, rfl⟩
  · rintro ⟨hholds, rfl⟩
    exact ⟨rule, ⟨mem_all rule, hholds⟩, rfl⟩

/-- A kind with one name has it exactly when it applies. -/
theorem mem_clauseNames_iff_holds (rule : Rule) {name : String}
    (hname : rule.clauseNames = [name]) : name ∈ p.clauseNames type ↔ rule.holds p type := by
  have hmem : name ∈ rule.clauseNames := hname ▸ List.mem_singleton_self name
  have hclause : (rule.clause p).name = name :=
    List.mem_singleton.mp (hname ▸ name_clause_mem rule p)
  rw [mem_clauseNames_iff hmem, and_iff_left hclause]

/-- **No name comes twice**, as no kind does. -/
theorem nodup_clauseNames : (p.clauseNames type).Nodup := by
  have hinjective : ∀ rule other : Rule, (rule.clause p).name = (other.clause p).name →
      rule = other := fun rule other heq =>
    eq_of_mem_clauseNames (name_clause_mem rule p) (heq ▸ name_clause_mem other p)
  refine List.Nodup.map_on (fun rule _ other _ => hinjective rule other) ?_
  exact increasing_all.nodup.filter _

/-- Where no two of some kinds apply together, at most one of their names is there. -/
theorem atMostOneOf {group : List String} (kinds : List Rule)
    (hgroup : ∀ name ∈ group, ∃ rule ∈ kinds, name ∈ rule.clauseNames)
    (hone : kinds.Pairwise fun rule other => rule.holds p type → ¬other.holds p type) :
    AtMostOneOf group (p.clauseNames type) := by
  intro a ha b hb hina hinb
  obtain ⟨rule, hrule, hname⟩ := hgroup a ha
  obtain ⟨other, hother, hname'⟩ := hgroup b hb
  obtain ⟨hholds, rfl⟩ := (mem_clauseNames_iff hname).mp hina
  obtain ⟨hholds', rfl⟩ := (mem_clauseNames_iff hname').mp hinb
  by_contra hne
  have hsymm : Std.Symm fun rule other : Rule => rule.holds p type → ¬other.holds p type :=
    ⟨fun _ _ h hother hrule => h hrule hother⟩
  have hapart := hone.forall hrule hother fun heq => hne (heq ▸ rfl)
  exact hapart hholds hholds'

/-- Where kinds of two groups do not apply together, names of both are not there together. -/
theorem neverTogether {group others : List String} (kinds kinds' : List Rule)
    (hgroup : ∀ name ∈ group, ∃ rule ∈ kinds, name ∈ rule.clauseNames)
    (hothers : ∀ name ∈ others, ∃ rule ∈ kinds', name ∈ rule.clauseNames)
    (hapart : ∀ rule ∈ kinds, ∀ other ∈ kinds', rule.holds p type → ¬other.holds p type) :
    NeverTogether group others (p.clauseNames type) := by
  intro a ha b hb hina hinb
  obtain ⟨rule, hrule, hname⟩ := hgroup a ha
  obtain ⟨other, hother, hname'⟩ := hothers b hb
  exact hapart rule hrule other hother ((mem_clauseNames_iff hname).mp hina).1
    ((mem_clauseNames_iff hname').mp hinb).1

/-! ## 5. Every property -/

/-- The names that a property has for a type do not contradict each other. -/
theorem consistent_clauseNames (p : Property) (type : String) :
    Consistent (p.clauseNames type) where
  nodup := nodup_clauseNames
  one_type := by
    refine atMostOneOf [numeric, boolean, array] (by decide) ?_
    exact List.Pairwise.imp Unrelated.not_holds (by decide)
  one_format := atMostOneOf formatKinds (by decide) pairwise_formatKinds
  one_enum := by
    refine atMostOneOf [oneOf, noneOf] (by decide) ?_
    exact List.pairwise_pair.mpr not_holds_noneOf
  one_pattern := by
    refine atMostOneOf [regex, notRegex] (by decide) ?_
    exact List.pairwise_pair.mpr not_holds_notRegex
  size_alone := neverTogether [size] [min, max, between] (by decide) (by decide) not_holds_of_size
  between_iff := by
    rw [mem_clauseNames_iff_holds between rfl, mem_clauseNames_iff_holds min rfl,
      mem_clauseNames_iff_holds max rfl]
    exact holds_between_iff
  array_of_distinct := by
    rw [mem_clauseNames_iff_holds distinct rfl, mem_clauseNames_iff_holds array rfl]
    exact holds_array_of_distinct
  numeric_of_multiple := by
    rw [mem_clauseNames_iff_holds multipleOf rfl, mem_clauseNames_iff_holds numeric rfl]
    exact holds_numeric_of_multipleOf
  text_apart := by
    have hunrelated : ∀ rule ∈ formatKinds ++ [image, regex, notRegex],
        ∀ other ∈ [numeric, boolean, array, distinct, multipleOf], rule.Unrelated other := by decide
    exact neverTogether _ _ (by decide) (by decide) fun rule hrule other hother =>
      (hunrelated rule hrule other hother).not_holds
  boolean_unbounded := by
    have hunrelated : ∀ rule ∈ [boolean], ∀ other ∈ [min, max, between, size],
        rule.Unrelated other := by decide
    exact neverTogether _ _ (by decide) (by decide) fun rule hrule other hother =>
      (hunrelated rule hrule other hother).not_holds

/-- **The clauses of one definition go together.**  A property with a type has clauses, one for each
kind of rule that applies, and their names are consistent: no name comes twice, and no two clauses
speak of different types of values, of different formats or patterns, of listed values in both
senses, or of equal and of different bounds. -/
theorem clauses_consistent (p : Property) (type : String) (h : p.type = .ok type) :
    ∃ clauses, p.clauses = .ok clauses ∧ Consistent (clauses.map Clause.name) := by
  refine ⟨_, clauses_of_type h, ?_⟩
  have hnames := consistent_clauseNames p type
  rwa [List.map_map]

/-! ### A crowded property

It has keywords for most kinds of rules, and those for arrays and numbers say nothing about it. -/

/-- A string with keywords for other types besides. -/
def crowdedProperty : Property :=
  .topLevel "contact" (.object [("type", .string "string"), ("format", .string "full-date"),
    ("enum", .array [.string "a"]), ("pattern", .string "^[\\pL\\pM]+$"),
    ("minLength", .integer 5), ("maxLength", .float (.zero false)), ("minItems", .integer 2),
    ("maxItems", .integer 2), ("uniqueItems", .bool true), ("multipleOf", .integer 3),
    ("contentEncoding", .string "base64"), ("contentMediaType", .string "image/png")])

theorem clauses_consistent_crowdedProperty :
    crowdedProperty.type = .ok "string" ∧
      crowdedProperty.clauses.map (List.map Clause.name)
        = .ok ["between", "date_format", "image", "in", "max", "min", "alpha"] ∧
      Consistent ["between", "date_format", "image", "in", "max", "min", "alpha"] := by
  have htype : crowdedProperty.type = .ok "string" := by decide +kernel
  have hnames : crowdedProperty.clauses.map (List.map Clause.name)
      = .ok ["between", "date_format", "image", "in", "max", "min", "alpha"] := by decide +kernel
  obtain ⟨clauses, hclauses, hconsistent⟩ := clauses_consistent crowdedProperty "string" htype
  have hlist : clauses.map Clause.name
      = ["between", "date_format", "image", "in", "max", "min", "alpha"] := by
    rw [hclauses] at hnames
    exact Except.ok.inj hnames
  exact ⟨htype, hnames, hlist ▸ hconsistent⟩

end Property

end FieldRules

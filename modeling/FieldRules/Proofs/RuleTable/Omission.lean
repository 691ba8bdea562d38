/-
# Leaving rules out, by name or by text

Rules are left out of a table by the names of its clauses (`RuleTable.without`).  Who has only the
texts that were handed out can leave out the same ones: the name of a clause is what stands before
the first colon of its text (`Clause.nameOfText_text`), whatever its parameters hold.

That is so because names hold no colon (`Clause.Legible`).  A clause has one of the names of its
kind of rule (`Rule.name_clause_mem`), and these are few: a definition can fill the parameters of
a clause as it likes, but not its name.

Leaving out by text is then a filter on lists of texts, so doing it again changes nothing, and
doing it for two omissions is doing it for both at once (`rulesWithout_eq_dropTexts`).
-/
import FieldRules.Proofs.RuleTable.Fragments

namespace FieldRules

/-! ## 1. The names of clauses -/

/-- The names that the clauses of a kind of rule can have. -/
def Rule.clauseNames : Rule → List String
  | array => ["array"]
  | boolean => ["boolean"]
  | numeric => ["numeric"]
  | distinct => ["distinct"]
  | multipleOf => ["multiple_of"]
  | min => ["min"]
  | max => ["max"]
  | between => ["between"]
  | size => ["size"]
  | date => ["date"]
  | dateFormat => ["date_format"]
  | email => ["email"]
  | url => ["url"]
  | ipAddress => ["ip"]
  | image => ["image"]
  | regex => ["alpha", "alpha_dash", "alpha_num", "starts_with", "regex"]
  | notRegex => ["not_regex"]
  | oneOf => ["in"]
  | noneOf => ["not_in"]

/-- A pattern has one of five names. -/
theorem Pattern.name_clause_mem (pattern : String) :
    (clause pattern).name ∈ Rule.regex.clauseNames := by
  unfold clause Rule.clauseNames
  split_ifs <;> simp

/-- **A clause has a name of its kind**, whatever the property says. -/
theorem Rule.name_clause_mem (rule : Rule) (p : Property) :
    (rule.clause p).name ∈ rule.clauseNames := by
  cases rule with
  | regex => exact Pattern.name_clause_mem _
  | _ => exact List.mem_singleton_self _

/-! ## 2. Reading the name off the text -/

namespace Clause

/-- What stands before the first colon of a text; all of it when there is none. -/
def nameOfText (text : String) : String := String.ofList (text.toList.takeWhile (· ≠ ':'))

/-- A clause whose name can be read off its text: there is no colon in the name. -/
def Legible (c : Clause) : Prop := ':' ∉ c.name.toList

theorem all_ne_colon {name : String} (h : ':' ∉ name.toList) :
    ∀ c ∈ name.toList, decide (c ≠ ':') = true := fun _ hc =>
  decide_eq_true fun heq => h (heq ▸ hc)

theorem toList_text_cons (name param : String) (rest : List String) :
    (text ⟨name, param :: rest⟩).toList
      = name.toList ++ ':' :: (param.toList ++ (furtherParams rest).toList) := by
  simp [text]

/-- **The name is what stands before the first colon**, whatever the parameters hold. -/
theorem nameOfText_text {c : Clause} (h : c.Legible) : nameOfText c.text = c.name := by
  obtain ⟨name, params⟩ := c
  cases params with
  | nil =>
    have htext : text ⟨name, []⟩ = name := rfl
    rw [nameOfText, htext, List.takeWhile_eq_self_iff.mpr (all_ne_colon h), String.ofList_toList]
  | cons param rest =>
    rw [nameOfText, toList_text_cons, List.takeWhile_append_of_pos (all_ne_colon h),
      List.takeWhile_cons_of_neg (by simp), List.append_nil, String.ofList_toList]

theorem legible_required : required.Legible := by
  unfold Legible
  decide

/-- Every clause of a property is legible. -/
theorem legible_clause (rule : Rule) (p : Property) : (rule.clause p).Legible := by
  have hnames : ∀ name ∈ rule.clauseNames, ':' ∉ name.toList := by
    cases rule <;> decide
  exact hnames _ (rule.name_clause_mem p)

end Clause

/-! ## 3. Where the clauses of a table come from -/

/-- The clauses of a definition are clauses of rules. -/
theorem exists_rule_of_mem_clauses {p : Property} {clauses : List Clause}
    (h : p.clauses = .ok clauses) {c : Clause} (hc : c ∈ clauses) :
    ∃ rule : Rule, c = rule.clause p := by
  cases htype : p.type with
  | error e =>
    rw [Property.clauses_of_untyped htype] at h
    cases h
  | ok type =>
    rw [Property.clauses_of_type htype] at h
    cases h
    obtain ⟨rule, -, rfl⟩ := List.mem_map.mp hc
    exact ⟨rule, rfl⟩

/-- So are those of a property of a schema, its parts included. -/
theorem exists_rule_of_mem_compileProperty {name : String} {d : Json} {clauses : List Clause}
    (h : compileProperty name d = .ok clauses) {c : Clause} (hc : c ∈ clauses) :
    ∃ (rule : Rule) (p : Property), c = rule.clause p := by
  obtain ⟨fragments, hall, rfl⟩ := (clausesOfAll_eq_ok_iff _ _).mp h
  obtain ⟨fragment, hfragment, hc⟩ := List.mem_flatten.mp hc
  obtain ⟨i, hi, rfl⟩ := List.getElem_of_mem hfragment
  have hclauses := hall.get (hall.length_eq ▸ hi) hi
  obtain ⟨rule, hrule⟩ := exists_rule_of_mem_clauses hclauses hc
  exact ⟨rule, _, hrule⟩

namespace RuleTable

/-- **Every clause of a compiled table is the clause of some rule.** -/
theorem exists_rule_of_mem_compile {idField : String} {properties : OrderedMap Json}
    {table : RuleTable} (h : compile idField properties = .ok table) {name : String}
    {clauses : List Clause} (hentry : (name, clauses) ∈ table.entries) {c : Clause}
    (hc : c ∈ clauses) : ∃ (rule : Rule) (p : Property), c = rule.clause p := by
  obtain ⟨d, -, hd⟩ := OrderedMap.exists_of_mem_traverse h hentry
  exact exists_rule_of_mem_compileProperty hd hc

/-! ## 4. Leaving out by text -/

/-- A table of which every clause is legible. -/
def Legible (table : RuleTable) : Prop :=
  ∀ name clauses, (name, clauses) ∈ table.entries → ∀ c ∈ clauses, c.Legible

theorem legible_compile {idField : String} {properties : OrderedMap Json} {table : RuleTable}
    (h : compile idField properties = .ok table) : table.Legible := by
  intro name clauses hentry c hc
  obtain ⟨rule, p, rfl⟩ := exists_rule_of_mem_compile h hentry hc
  exact Clause.legible_clause rule p

/-- The mark of a required property is legible too. -/
theorem Legible.markRequired {table : RuleTable} (h : table.Legible) (required : List String) :
    (table.markRequired required).Legible := by
  intro name clauses hentry c hc
  obtain ⟨⟨name', clauses'⟩, hmem, heq⟩ := List.mem_map.mp hentry
  cases heq
  dsimp only at hc
  split at hc
  · rcases List.mem_append.mp hc with hc | hc
    · exact h name' clauses' hmem c hc
    · rw [List.mem_singleton.mp hc]
      exact Clause.legible_required
  · exact h name' clauses' hmem c hc

end RuleTable

/-- The texts whose name is omitted taken away; the properties stay. -/
def RuleTexts.drop (omission : Omission) (texts : RuleTexts) : RuleTexts :=
  texts.mapEntries fun _ lines => lines.filter fun line => !omission.omits (Clause.nameOfText line)

/-- The names that an omission leaves out. -/
def Omission.names : Omission → List String
  | one name => [name]
  | many names => names

/-- What either of two omissions leaves out. -/
def Omission.union (x y : Omission) : Omission := .many (x.names ++ y.names)

theorem Omission.omits_eq_contains (x : Omission) (name : String) :
    x.omits name = x.names.contains name := by
  cases x with
  | one other => simp [omits, names, eq_comm]
  | many names => rfl

theorem Omission.omits_iff (x : Omission) (name : String) :
    x.omits name = true ↔ name ∈ x.names := by
  rw [omits_eq_contains, List.contains_iff_mem]

theorem Omission.omits_union (x y : Omission) (name : String) :
    (x.union y).omits name = (x.omits name || y.omits name) := by
  simp [omits_eq_contains, union, names]

/-- **Leaving clauses out by name is leaving texts out by text.** -/
theorem RuleTable.texts_without {table : RuleTable} (h : table.Legible) (x : Omission) :
    (table.without x).texts = RuleTexts.drop x table.texts := by
  refine OrderedMap.ext_entries ?_
  simp only [texts, without, RuleTexts.drop, OrderedMap.mapEntries, List.map_map]
  refine List.map_congr_left fun entry hentry => ?_
  have hline : ∀ c ∈ entry.2, Clause.nameOfText c.text = c.name := fun c hc =>
    Clause.nameOfText_text (h entry.1 entry.2 hentry c hc)
  simp only [Function.comp_apply, List.filter_map]
  refine congrArg (fun clauses : List Clause => (entry.1, clauses.map Clause.text)) ?_
  refine List.filter_congr fun c hc => ?_
  simp only [Function.comp_apply, hline c hc]

/-- Two omissions one after the other leave out what both together do. -/
theorem RuleTexts.drop_drop (x y : Omission) (texts : RuleTexts) :
    drop y (drop x texts) = drop (x.union y) texts := by
  refine OrderedMap.ext_entries ?_
  simp only [drop, OrderedMap.mapEntries, List.map_map]
  refine List.map_congr_left fun entry _ => ?_
  simp only [Function.comp_apply, List.filter_filter, Omission.omits_union, Bool.not_or,
    Bool.and_comm]

/-- Leaving out once is enough. -/
theorem RuleTexts.drop_self (x : Omission) (texts : RuleTexts) :
    drop x (drop x texts) = drop x texts := by
  have hself : ∀ name, (x.union x).omits name = x.omits name := fun name => by
    rw [Omission.omits_union, Bool.or_self]
  rw [drop_drop]
  simp only [drop, hself]

/-! ## 5. Rules without the omitted ones -/

/-- **Rules left out by name are rules left out by text.**  Whatever the schema, the required
fields and the omission, the rules without the omitted ones are the rules of which each text is
taken away whose part before the first colon is omitted, which means that it is a name of the
omission; the properties and the order of the other texts stay.  Leaving the same out of these
again changes nothing, and leaving out more gives the rules without either. -/
theorem rulesWithout_eq_dropTexts (idField : String) (properties : OrderedMap Json)
    (required : List String) (x y : Omission) :
    rulesWithout idField properties required x
        = (requiredRules idField properties required).map (RuleTexts.drop x) ∧
      (∀ name, x.omits name = true ↔ name ∈ x.names) ∧
      (∀ texts : RuleTexts, (texts.drop x).keys = texts.keys ∧
        ∀ name, (texts.drop x).get? name = (texts.get? name).map
          (List.filter fun line => !x.omits (Clause.nameOfText line))) ∧
      (rulesWithout idField properties required x).map (RuleTexts.drop x)
        = rulesWithout idField properties required x ∧
      (rulesWithout idField properties required x).map (RuleTexts.drop y)
        = rulesWithout idField properties required (x.union y) := by
  have htexts : ∀ z, rulesWithout idField properties required z
      = (requiredRules idField properties required).map (RuleTexts.drop z) := by
    intro z
    unfold rulesWithout requiredRules
    cases htable : RuleTable.compile idField properties with
    | error e => rfl
    | ok table =>
      exact congrArg Except.ok
        (RuleTable.texts_without ((RuleTable.legible_compile htable).markRequired required) z)
  refine ⟨htexts x, x.omits_iff, fun texts => ⟨OrderedMap.keys_mapEntries _ _, fun name =>
    OrderedMap.get?_mapEntries _ _ _⟩, ?_, ?_⟩
  · rw [htexts x]
    cases requiredRules idField properties required with
    | error e => rfl
    | ok texts => exact congrArg Except.ok (RuleTexts.drop_self x texts)
  · rw [htexts x, htexts (x.union y)]
    cases requiredRules idField properties required with
    | error e => rfl
    | ok texts => exact congrArg Except.ok (RuleTexts.drop_drop x y texts)

/-- A name that holds a colon is the name of no rule, even where it is the text of one. -/
example : rulesWithout "id" (.ofList [("n", .object [("type", .string "integer"),
      ("minimum", .integer 3), ("pattern", .string "a:b")])]) ["n"] (.many ["min:3", "required"])
    = .ok (.ofList [("n", ["min:3", "numeric"])]) := by
  decide +kernel

end FieldRules

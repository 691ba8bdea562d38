/-
# The mark of required fields

The rules of a contract are its optional rules with one line more, `required`, at the end of the
lists of the fields that must be there.  The line marks these fields and means nothing else: no
kind of rule has this name or can be written as this text (`Rule.text_clause_ne_required`), not
even for a schema that spells the word in its values and patterns.  So the mark can be taken away
again by its name, which gives the optional rules back (`rulesWithout_required`).

Which fields are marked hangs on the names in the required list that are names of fields, and of
each only on whether it is there (`rules_congr`).  A schema document may therefore list them in any
order, repeatedly, and among entries that are no names (`rules_ofDocument_congr`).
-/
import FieldRules.Proofs.Contract.Checking
import FieldRules.Proofs.RuleTable.Omission

namespace FieldRules

/-! ## 1. No rule is called `required` -/

theorem Rule.name_clause_ne_required (rule : Rule) (p : Property) :
    (rule.clause p).name ≠ Clause.required.name := by
  have hnames : ∀ name ∈ rule.clauseNames, name ≠ Clause.required.name := by
    cases rule <;> decide
  exact hnames _ (rule.name_clause_mem p)

/-- **No clause of a rule reads `required`**, whatever the property says. -/
theorem Rule.text_clause_ne_required (rule : Rule) (p : Property) :
    (rule.clause p).text ≠ Clause.required.text := by
  intro htext
  have hname := congrArg Clause.nameOfText htext
  rw [Clause.nameOfText_text (Clause.legible_clause rule p),
    Clause.nameOfText_text Clause.legible_required] at hname
  exact rule.name_clause_ne_required p hname

/-! ## 2. Marked texts -/

/-- The line `required` added to the lists of the required fields. -/
def RuleTexts.mark (required : List String) (texts : RuleTexts) : RuleTexts :=
  texts.mapEntries fun name lines =>
    if required.contains name then lines ++ [Clause.required.text] else lines

namespace RuleTable

/-- Marking clauses is marking their texts. -/
theorem texts_markRequired (required : List String) (table : RuleTable) :
    (table.markRequired required).texts = RuleTexts.mark required table.texts := by
  refine OrderedMap.ext_entries ?_
  simp only [texts, markRequired, RuleTexts.mark, OrderedMap.mapEntries, List.map_map]
  refine List.map_congr_left fun entry _ => ?_
  rw [Function.comp_apply, Function.comp_apply]
  split <;> simp

/-- The mark can be taken away by its name from a table without clauses of that name. -/
theorem without_markRequired {table : RuleTable} {omission : Omission}
    (h : ∀ name clauses, (name, clauses) ∈ table.entries →
      ∀ c ∈ clauses, c.name ≠ Clause.required.name)
    (homits : omission.names = [Clause.required.name]) (required : List String) :
    (table.markRequired required).without omission = table := by
  have homit : ∀ name, omission.omits name = decide (name = Clause.required.name) := fun name => by
    rw [omission.omits_eq_contains, homits]
    simp
  have hmark : ([Clause.required].filter fun c => !omission.omits c.name) = [] := by
    simp [homit]
  refine OrderedMap.ext_entries ?_
  simp only [without, markRequired, OrderedMap.mapEntries, List.map_map]
  refine (List.map_congr_left fun entry hentry => ?_).trans (List.map_id table.entries)
  have hkept : (entry.2.filter fun c => !omission.omits c.name) = entry.2 :=
    List.filter_eq_self.mpr fun c hc => by simp [homit, h entry.1 entry.2 hentry c hc]
  simp only [Function.comp_apply, id_eq]
  split
  · rw [List.filter_append, hkept, hmark, List.append_nil]
  · rw [hkept]

/-- No clause of a compiled table has the name of the mark. -/
theorem name_ne_required_of_mem_compile {idField : String} {properties : OrderedMap Json}
    {table : RuleTable} (h : compile idField properties = .ok table) (name : String)
    (clauses : List Clause) (hentry : (name, clauses) ∈ table.entries) :
    ∀ c ∈ clauses, c.name ≠ Clause.required.name := by
  intro c hc
  obtain ⟨rule, p, rfl⟩ := exists_rule_of_mem_compile h hentry hc
  exact rule.name_clause_ne_required p

/-- Nor does any of its texts read like it. -/
theorem required_not_mem_texts {idField : String} {properties : OrderedMap Json}
    {table : RuleTable} (h : compile idField properties = .ok table) {name : String}
    {lines : List String} (hget : table.texts.get? name = some lines) :
    Clause.required.text ∉ lines := by
  intro hline
  rw [texts, OrderedMap.get?_mapEntries] at hget
  obtain ⟨clauses, hclauses, rfl⟩ := Option.map_eq_some_iff.mp hget
  obtain ⟨c, hc, htext⟩ := List.mem_map.mp hline
  have hentry := (OrderedMap.get?_eq_some_iff table name clauses).mp hclauses
  obtain ⟨rule, p, rfl⟩ := exists_rule_of_mem_compile h hentry hc
  exact rule.text_clause_ne_required p htext

end RuleTable

namespace RuleTexts

theorem get?_mark (required : List String) (texts : RuleTexts) (name : String) :
    (texts.mark required).get? name = (texts.get? name).map fun lines =>
      if required.contains name then lines ++ [Clause.required.text] else lines :=
  OrderedMap.get?_mapEntries _ _ _

/-- Of the required names only those count that have a list. -/
theorem mark_congr {texts : RuleTexts} {required others : List String}
    (h : ∀ name ∈ texts.keys, name ∈ required ↔ name ∈ others) :
    texts.mark required = texts.mark others := by
  refine OrderedMap.ext_entries (List.map_congr_left fun entry hentry => ?_)
  have hsame : required.contains entry.1 = others.contains entry.1 := by
    rw [Bool.eq_iff_iff, List.contains_iff_mem, List.contains_iff_mem]
    exact h entry.1 (List.mem_map_of_mem hentry)
  simp only [hsame]

end RuleTexts

namespace Contract

variable {c : Contract}

/-! ## 3. The rules of a contract -/

/-- **The rules are the optional rules, marked.** -/
theorem rules_eq_mark (c : Contract) :
    c.rules = c.optionalRules.map (RuleTexts.mark c.required) := by
  rw [rules, requiredRules, optionalRules, FieldRules.optionalRules]
  cases RuleTable.compile c.idField c.properties with
  | error e => rfl
  | ok table => exact congrArg Except.ok (table.texts_markRequired c.required)

theorem keys_of_optionalRules {texts : RuleTexts} (h : c.optionalRules = .ok texts) :
    texts.keys = c.dataFields := by
  rw [optionalRules, FieldRules.optionalRules] at h
  cases htable : RuleTable.compile c.idField c.properties with
  | error e =>
    rw [htable] at h
    cases h
  | ok table =>
    rw [htable] at h
    cases h
    rw [RuleTable.keys_texts, OrderedMap.keys_of_traverse htable, dataFields_eq_keys]

/-- **Only the required fields are seen of a required list.** -/
theorem rules_congr {required : List String}
    (h : ∀ name ∈ c.dataFields, name ∈ required ↔ name ∈ c.required) :
    { c with required := required }.rules = c.rules := by
  rw [rules_eq_mark, rules_eq_mark]
  have hoptional : { c with required := required }.optionalRules = c.optionalRules := rfl
  rw [hoptional]
  cases htexts : c.optionalRules with
  | error e => rfl
  | ok texts =>
    refine congrArg Except.ok (RuleTexts.mark_congr ?_)
    rw [keys_of_optionalRules htexts]
    exact h

/-- **Without the mark, the rules are the optional rules.** -/
theorem rulesWithout_required {omission : Omission}
    (homits : omission.names = [Clause.required.name]) :
    c.rulesWithout omission = c.optionalRules := by
  rw [rulesWithout, FieldRules.rulesWithout, optionalRules, FieldRules.optionalRules]
  cases htable : RuleTable.compile c.idField c.properties with
  | error e => rfl
  | ok table =>
    exact congrArg (fun t : RuleTable => Except.ok t.texts) (RuleTable.without_markRequired
      (RuleTable.name_ne_required_of_mem_compile htable) homits c.required)

/-! ## 4. Required lists in documents -/

/-- The names in a list of a document: its entries that are strings. -/
theorem mem_names_iff {items : List Json} {name : String} :
    name ∈ firstOccurrences (items.filterMap Json.string?) ↔ Json.string name ∈ items := by
  have hstring : ∀ j : Json, j.string? = some name ↔ j = .string name := by
    intro j
    cases j <;> simp [Json.string?]
  rw [mem_firstOccurrences, List.mem_filterMap]
  simp only [hstring, exists_eq_right]

/-- What is read from a section that is a list. -/
theorem requiredOf_of_array {name : String} {document : List (String × Json)} {items : List Json}
    (h : document.lookup Section.required.name = some (.array items)) :
    requiredOf name document = .ok (firstOccurrences (items.filterMap Json.string?)) := by
  rw [requiredOf, Json.option?, h]
  rfl

/-- The section of required fields gives the names in its list; without a list it gives none. -/
theorem mem_requiredOf_iff {document : List (String × Json)} {name field : String}
    {required : List String} (h : requiredOf name document = .ok required) :
    field ∈ required ↔ ∃ items, document.lookup Section.required.name = some (.array items) ∧
      Json.string field ∈ items := by
  cases hsection : document.lookup Section.required.name with
  | none =>
    rw [requiredOf, Json.option?, hsection] at h
    cases h
    simp
  | some value =>
    cases value with
    | array items =>
      rw [requiredOf_of_array hsection] at h
      cases h
      simp [mem_names_iff]
    | null =>
      rw [requiredOf, Json.option?, hsection] at h
      cases h
      simp
    | _ =>
      rw [requiredOf, Json.option?, hsection] at h
      cases h

/-- **A contract requires the names in the list of its document.** -/
theorem mem_required_iff {document : List (String × Json)} {name field : String}
    (h : ofDocument name (.object document) = .ok c) :
    field ∈ c.required ↔ ∃ items, document.lookup Section.required.name = some (.array items) ∧
      Json.string field ∈ items := by
  obtain ⟨_, hdocument, -, hrequired, -, -⟩ := parts_of_ofDocument h
  cases hdocument
  exact mem_requiredOf_iff hrequired

/-- **Of a required list in a document only its names count.**  Documents that are the same but
for this list make contracts with the same rules, or are refused alike. -/
theorem rules_ofDocument_congr {document other : List (String × Json)} {items others : List Json}
    (hsame : ∀ key, key ≠ Section.required.name → document.lookup key = other.lookup key)
    (hitems : document.lookup Section.required.name = some (.array items))
    (hothers : other.lookup Section.required.name = some (.array others))
    (hnames : ∀ name, Json.string name ∈ items ↔ Json.string name ∈ others)
    (name idField : String) :
    (ofDocument name (.object document)).map (fun c => (c.identifiedBy idField).rules)
      = (ofDocument name (.object other)).map fun c => (c.identifiedBy idField).rules := by
  have hproperties : propertiesOf name document = propertiesOf name other := by
    rw [propertiesOf, propertiesOf, Json.option?, Json.option?, hsame _ (by decide)]
  simp only [ofDocument, Json.object?, requiredOf_of_array hitems, requiredOf_of_array hothers,
    hproperties]
  cases propertiesOf name other with
  | error e => rfl
  | ok properties =>
    refine congrArg Except.ok (rules_congr fun field _ => ?_).symm
    exact mem_names_iff.trans ((hnames field).symm.trans mem_names_iff.symm)

/-! ## 5. Separability -/

/-- **The mark of required fields is put where it belongs and can be taken away.**  For every
contract that compiles, rules and optional rules list the data fields in the order of the schema.
The list of a field is its optional list, with `required` at the end if the field is required, and
no optional list holds `required`.  Required names that are no data fields make no difference, and
the rules without `required` are the optional rules.  A contract of a document requires the names in
the required list of the document and no others.  Documents of which the required lists hold the
same names, and which are otherwise the same, make contracts with the same rules. -/
theorem rules_mark_required :
    (∀ (c : Contract) (table : RuleTable), c.ruleTable = .ok table →
      ∃ optional marked, c.optionalRules = .ok optional ∧ c.rules = .ok marked ∧
        optional.keys = c.dataFields ∧ marked.keys = c.dataFields ∧
        (∀ name lines, optional.get? name = some lines → "required" ∉ lines ∧
          marked.get? name = some (if name ∈ c.required then lines ++ ["required"] else lines)) ∧
        (∀ required, (∀ name ∈ c.dataFields, name ∈ required ↔ name ∈ c.required) →
          { c with required := required }.rules = .ok marked) ∧
        ∀ omission, omission.names = ["required"] → c.rulesWithout omission = .ok optional) ∧
    (∀ (document : List (String × Json)) (name : String) (c : Contract),
      ofDocument name (.object document) = .ok c → ∀ field, field ∈ c.required ↔
        ∃ items, document.lookup "required" = some (.array items) ∧ Json.string field ∈ items) ∧
    (∀ (document other : List (String × Json)) (items others : List Json),
      (∀ key, key ≠ "required" → document.lookup key = other.lookup key) →
      document.lookup "required" = some (.array items) →
      other.lookup "required" = some (.array others) →
      (∀ name, Json.string name ∈ items ↔ Json.string name ∈ others) →
      ∀ name idField,
        (ofDocument name (.object document)).map (fun c => (c.identifiedBy idField).rules)
          = (ofDocument name (.object other)).map fun c => (c.identifiedBy idField).rules) := by
  refine ⟨fun c table htable => ?_, fun document name c hc field => mem_required_iff hc,
    fun document other items others hsame hitems hothers hnames name idField => ?_⟩
  · have hoptional : c.optionalRules = .ok table.texts :=
      congrArg (Except.map RuleTable.texts) htable
    have hrules : c.rules = .ok (table.texts.mark c.required) := by
      rw [rules_eq_mark, hoptional]
      rfl
    have hkeys : table.texts.keys = c.dataFields := keys_of_optionalRules hoptional
    refine ⟨table.texts, table.texts.mark c.required, hoptional, hrules, hkeys, ?_,
      fun name lines hget => ⟨RuleTable.required_not_mem_texts htable hget, ?_⟩,
      fun required hsame => (rules_congr hsame).trans hrules,
      fun omission homits => (rulesWithout_required homits).trans hoptional⟩
    · rw [← hkeys]
      exact OrderedMap.keys_mapEntries _ _
    · rw [RuleTexts.get?_mark, hget, Option.map_some]
      simp only [List.contains_iff_mem]
      rfl
  · exact rules_ofDocument_congr hsame hitems hothers hnames name idField

/-! ### One contract

The schema spells the word wherever it can, the id field is required, and so is a field that is
not there. -/

def formProperties : OrderedMap Json :=
  .ofList [("id", .object [("type", .string "integer")]),
    ("kind", .object [("type", .string "string"), ("pattern", .string "^required.*$"),
      ("enum", .string "required")]),
    ("required", .object [("type", .string "boolean")])]

def formContract : Contract := ⟨"form", formProperties, ["id", "kind", "ghost"], "id"⟩

def formTable : RuleTable :=
  .ofList [("kind", [⟨"in", ["required"]⟩, ⟨"starts_with", ["required"]⟩]),
    ("required", [⟨"boolean", []⟩])]

/-- A required list with entries that are no names, and one name twice. -/
def formItems : List Json := [.null, .string "ghost", .string "kind", .integer 1, .string "ghost"]

/-- A document of the form with a given required list. -/
def formDocument (required : List Json) : List (String × Json) :=
  [("required", .array required), ("properties", .object formProperties.entries)]

theorem rules_mark_required_formContract :
    formContract.ruleTable = .ok formTable ∧
      formContract.rulesWithout (.one "required") = formContract.optionalRules ∧
      { formContract with required := ["kind", "kind"] }.rules = formContract.rules ∧
      formContract.rules = .ok (.ofList
        [("kind", ["in:required", "starts_with:required", "required"]),
          ("required", ["boolean"])]) ∧
      (∃ c, ofDocument "form" (.object (formDocument formItems)) = .ok c ∧
        "ghost" ∈ c.required ∧ "id" ∉ c.required) ∧
      (ofDocument "form" (.object (formDocument [.string "kind", .string "ghost"]))).map
          (fun c => (c.identifiedBy "id").rules)
        = (ofDocument "form" (.object (formDocument formItems))).map
          fun c => (c.identifiedBy "id").rules := by
  have htable : formContract.ruleTable = .ok formTable := by decide +kernel
  have hform : ofDocument "form" (.object (formDocument formItems))
      = .ok ⟨"form", formProperties, ["ghost", "kind"], "id"⟩ := by decide +kernel
  obtain ⟨hcontract, hrequired, hdocument⟩ := rules_mark_required
  obtain ⟨optional, marked, hoptional, hrules, -, -, -, hothers, hwithout⟩ :=
    hcontract formContract formTable htable
  refine ⟨htable, ?_, ?_, by decide +kernel, ⟨_, hform, ?_, fun hid => ?_⟩, ?_⟩
  · rw [hoptional]
    exact hwithout (.one "required") rfl
  · rw [hrules]
    exact hothers ["kind", "kind"] (by decide +kernel)
  · exact (hrequired _ _ _ hform "ghost").mpr ⟨formItems, rfl, by simp [formItems]⟩
  · obtain ⟨items, hitems, hmem⟩ := (hrequired _ _ _ hform "id").mp hid
    cases hitems
    simp [formItems] at hmem
  · refine hdocument _ _ _ _ (fun key hkey => ?_) rfl rfl (fun name => ?_) "form" "id"
    · simp [formDocument, List.lookup_cons, beq_eq_false_iff_ne.mpr hkey]
    · simp [formItems, or_comm]

end Contract

end FieldRules

/-
# Checking a contract against compiling it

A contract is checked property by property, and compiled as a whole.  The check finds the faults
of all its fields but the id field, each compiled in a schema of its own, once and in the order of
the schema (`failures_eq_faults`).  The compilation stops at the first property that fails, and
what it says is the first thing that the check finds (`fault?_rules`).  So the check finds nothing
exactly when the contract has rules (`failures_eq_nil_iff`).
-/
import FieldRules.Contract
import FieldRules.Proofs.RuleTable.Untyped

namespace FieldRules

namespace Contract

variable {c : Contract}

/-! ## 1. Faults of single fields -/

/-- What a field fails with when it is the only one of its schema. -/
def fieldFault? (c : Contract) (field : String) : Option UntypedProperty :=
  (c.properties.get? field).bind fun d =>
    fault? (RuleTable.compile c.idField (OrderedMap.empty.insert field d))

/-- What the fields but the id field fail with, in the order of the schema. -/
def faults (c : Contract) : List UntypedProperty := c.dataFields.filterMap c.fieldFault?

/-- A schema with one property fails as that property does. -/
theorem fault?_compile_single {idField name : String} {d : Json} (hid : name ≠ idField) :
    fault? (RuleTable.compile idField (OrderedMap.empty.insert name d))
      = fault? (compileProperty name d) := by
  rw [RuleTable.compile, OrderedMap.fault?_traverse]
  have hentries : ((OrderedMap.empty.insert name d).filter (· ≠ idField)).entries
      = [(name, d)] := by
    simp [OrderedMap.filter, OrderedMap.empty, OrderedMap.put, hid]
  rw [hentries, List.filterMap_cons, List.filterMap_nil]
  cases fault? (compileProperty name d) <;> rfl

theorem fieldFault?_of_mem {name : String} {d : Json} (hmem : (name, d) ∈ c.properties.entries)
    (hid : name ≠ c.idField) : c.fieldFault? name = fault? (compileProperty name d) := by
  rw [fieldFault?, (OrderedMap.get?_eq_some_iff c.properties name d).mpr hmem, Option.bind_some,
    fault?_compile_single hid]

/-- A fault names the field that it is the fault of. -/
theorem property_of_fieldFault? {name : String} {e : UntypedProperty}
    (hid : name ≠ c.idField) (h : c.fieldFault? name = some e) : e.property = name := by
  obtain ⟨d, hget, -⟩ := Option.bind_eq_some_iff.mp h
  have hmem := (OrderedMap.get?_eq_some_iff c.properties name d).mp hget
  rw [fieldFault?_of_mem hmem hid, fault?_eq_some_iff, compileProperty_eq_error_iff] at h
  cases h with
  | itself => rfl
  | part => rfl

/-! ## 2. The check and the compilation -/

theorem dataFields_eq_keys (c : Contract) :
    c.dataFields = (c.properties.filter (· ≠ c.idField)).keys :=
  (OrderedMap.keys_filter _ _).symm

theorem nodup_dataFields (c : Contract) : c.dataFields.Nodup := by
  rw [dataFields_eq_keys]
  exact (c.properties.filter _).nodup

theorem ne_idField_of_mem_dataFields {name : String} (h : name ∈ c.dataFields) :
    name ≠ c.idField := by
  simpa using (List.mem_filter.mp h).2

/-- **The check finds what every field fails with by itself**, each once and in order. -/
theorem failures_eq_faults (c : Contract) : c.failures = c.faults := by
  rw [faults, dataFields_eq_keys, OrderedMap.keys, List.filterMap_map]
  refine List.filterMap_congr fun entry hentry => ?_
  obtain ⟨hmem, hid⟩ := List.mem_filter.mp hentry
  have hfault := fieldFault?_of_mem hmem (by simpa using hid)
  rw [Function.comp_apply, hfault]
  cases compileProperty entry.1 entry.2 <;> rfl

theorem fault?_ruleTable (c : Contract) : fault? c.ruleTable = c.failures.head? := by
  rw [ruleTable, RuleTable.compile, OrderedMap.fault?_traverse]
  refine congrArg List.head? (List.filterMap_congr fun entry _ => ?_)
  cases compileProperty entry.1 entry.2 <;> rfl

/-- **The compilation says the first thing that the check finds.** -/
theorem fault?_rules (c : Contract) : fault? c.rules = c.failures.head? := by
  rw [← fault?_ruleTable, rules, requiredRules, fault?_map]
  rfl

/-- Whether a contract has rules. -/
def Compiles (c : Contract) : Prop := ∃ texts, c.rules = .ok texts

/-- Texts are made of a table and of nothing else. -/
theorem compiles_iff (c : Contract) : c.Compiles ↔ ∃ table, c.ruleTable = .ok table := by
  rw [Compiles, ← fault?_eq_none_iff, ← fault?_eq_none_iff, fault?_rules, fault?_ruleTable]

/-- **The check finds nothing exactly when there are rules.** -/
theorem failures_eq_nil_iff (c : Contract) : c.failures = [] ↔ c.Compiles := by
  rw [Compiles, ← fault?_eq_none_iff, fault?_rules, List.head?_eq_none_iff]

/-! ## 3. The report of a contract -/

theorem report?_eq_none_iff (c : Contract) : c.report? = none ↔ c.Compiles := by
  rw [← failures_eq_nil_iff, report?, Option.map_eq_none_iff]
  cases c.failures <;> simp [FailureReport.ofList?]

/-- A report holds what the check has found, and says whose it is. -/
theorem of_report?_eq_some {report : FailureReport} (h : c.report? = some report) :
    report.failures = c.failures ∧ report.contract = some c.name := by
  obtain ⟨found, hfound, rfl⟩ := Option.map_eq_some_iff.mp h
  rw [FailureReport.failures_attributeTo, FailureReport.failures_of_ofList? hfound]
  exact ⟨rfl, rfl⟩

end Contract

end FieldRules

/-
# Queries about names that are not there

A query about a name for which a registry has no contract has nothing to answer with.  Three of
the five queries look for the contract first: they say that it is not found, and make no call on
the store.  The other two, for the fields and for the optional rules, ask the store first and
believe it.  They say that the contract is not found exactly when nothing stands under the
registry's own key of the name that can be read as their answer (`notFound_iff_of_unknown`).

A registry itself never writes under such a key before the contract comes in.  But someone else
may, and then the two queries hand out what he wrote (`unknown_answered_of_planted`).  No query
about an unknown name changes the store.
-/
import FieldRules.Proofs.Registry.Answers

namespace FieldRules

namespace Registry

variable {α : Type} {r : Registry} {name : String}

/-! ## 1. Looking for the contract -/

theorem contract_of_unknown (h : r.catalogue.find? name = none) :
    r.contract name = .error (.notFound name) := by
  rw [contract, h]

theorem own_of_unknown (h : r.catalogue.find? name = none)
    (compute : Contract → Except UntypedProperty α) :
    r.own compute name = .error (.notFound name) := by
  rw [own, contract_of_unknown h]
  rfl

/-- A query that looks for the contract first ends there. -/
theorem run_contract_bind_of_unknown (h : r.catalogue.find? name = none)
    (rest : Contract → Query α) (j : Journal) :
    (do let c ← r.contract name; rest c : Query α).run.run j = (.error (.notFound name), j) := by
  rw [contract_of_unknown h]
  rfl

/-! ## 2. Asking the store -/

/-- A query that asks the store first gives what it finds there, and the store stays as it is. -/
theorem run_answer_of_unknown (h : r.catalogue.find? name = none) (kind : AnswerKind)
    (read : StoredValue → Option α) (write : α → StoredValue)
    (compute : Contract → Except UntypedProperty α) (j : Journal) :
    ∃ calls, (r.answer kind read write compute name).run.run j
      = (match (j.store.get? (r.key kind name)).bind read with
          | some found => .ok found
          | none => .error (.notFound name), ⟨j.store, calls⟩) := by
  cases hfound : (j.store.get? (r.key kind name)).bind read with
  | some found => exact ⟨_, run_answer_of_hit write compute hfound⟩
  | none =>
    have hrun := run_answer_of_miss write compute hfound
    rw [own_of_unknown h] at hrun
    exact ⟨_, hrun⟩

theorem run_optionalRules (r : Registry) (name : String) (j : Journal) :
    (r.optionalRules name).run.run j
      = ((((r.ruleTable name).run.run j).1).map RuleTable.texts,
          ((r.ruleTable name).run.run j).2) :=
  run_map (r.ruleTable name) RuleTable.texts j

/-- A value that can be read as a field list is one. -/
theorem bind_fields?_eq_none_iff {found : Option StoredValue} :
    found.bind StoredValue.fields? = none ↔ ∀ names, found ≠ some (.fields names) := by
  cases found with
  | none => simp
  | some value => cases value <;> simp [StoredValue.fields?]

/-- A value that can be read as a rule table is one. -/
theorem bind_rules?_eq_none_iff {found : Option StoredValue} :
    found.bind StoredValue.rules? = none ↔ ∀ table, found ≠ some (.rules table) := by
  cases found with
  | none => simp
  | some value => cases value <;> simp [StoredValue.rules?]

/-! ## 3. Unknown names -/

/-- **What is said about an unknown name.**  Whatever the store holds, the data fields, the rules
and the rules without the omitted ones of a name without a contract are not found, and the store is
not even asked.  The fields and the optional rules leave the store as it is too.  They are not found
exactly when no value of their kind stands under the registry's own key of the name, and else they
are that value. -/
theorem notFound_iff_of_unknown (h : r.catalogue.find? name = none) (j : Journal) :
    ((r.dataFields name).run.run j = (.error (.notFound name), j) ∧
      (r.rules name).run.run j = (.error (.notFound name), j) ∧
      ∀ omission, (r.rulesWithout name omission).run.run j = (.error (.notFound name), j)) ∧
    (((r.fields name).run.run j).2.store = j.store ∧
      (((r.fields name).run.run j).1 = .error (.notFound name) ↔
        ∀ names, j.store.get? (r.key .fields name) ≠ some (.fields names)) ∧
      ∀ names, j.store.get? (r.key .fields name) = some (.fields names) →
        ((r.fields name).run.run j).1 = .ok names) ∧
    (((r.optionalRules name).run.run j).2.store = j.store ∧
      (((r.optionalRules name).run.run j).1 = .error (.notFound name) ↔
        ∀ table, j.store.get? (r.key .rules name) ≠ some (.rules table)) ∧
      ∀ table, j.store.get? (r.key .rules name) = some (.rules table) →
        ((r.optionalRules name).run.run j).1 = .ok table.texts) := by
  refine ⟨⟨run_contract_bind_of_unknown h _ j, run_contract_bind_of_unknown h _ j,
    fun omission => run_contract_bind_of_unknown h _ j⟩, ?_, ?_⟩
  · obtain ⟨calls, hrun⟩ := run_answer_of_unknown h .fields StoredValue.fields? StoredValue.fields
      (fun c => .ok c.fields) j
    rw [fields, hrun, ← bind_fields?_eq_none_iff]
    refine ⟨rfl, ?_, fun names hnames => by rw [hnames]; rfl⟩
    cases (j.store.get? (r.key .fields name)).bind StoredValue.fields? <;> simp
  · obtain ⟨calls, hrun⟩ := run_answer_of_unknown h .rules StoredValue.rules? StoredValue.rules
      Contract.ruleTable j
    rw [run_optionalRules, ruleTable, hrun, ← bind_rules?_eq_none_iff]
    refine ⟨rfl, ?_, fun table htable => by rw [htable]; rfl⟩
    cases (j.store.get? (r.key .rules name)).bind StoredValue.rules? <;> simp [Except.map]

/-! ### A registry without contracts

Once its store holds values of the wrong kind under the keys of a name, and once such as can be
read. -/

def strayTable : RuleTable := .ofList [("size", [⟨"numeric", []⟩])]

/-- A store in which each key holds what belongs under the other. -/
def swappedStore : Store :=
  ⟨.memory, .ofList [(((new 1).key .fields "ghost").text, .rules strayTable),
    (((new 1).key .rules "ghost").text, .fields ["size"])]⟩

/-- A store with answers about a contract that there is not. -/
def plantedStore : Store :=
  ⟨.memory, .ofList [(((new 1).key .fields "ghost").text, .fields ["size"]),
    (((new 1).key .rules "ghost").text, .rules strayTable)]⟩

theorem notFound_iff_of_unknown_swappedStore :
    (new 1).catalogue.find? "ghost" = none ∧
      ((new 1).rules "ghost").run.run (.start swappedStore)
        = (.error (.notFound "ghost"), .start swappedStore) ∧
      (((new 1).fields "ghost").run.run (.start swappedStore)).1 = .error (.notFound "ghost") ∧
      (((new 1).optionalRules "ghost").run.run (.start swappedStore)).1
        = .error (.notFound "ghost") ∧
      (((new 1).fields "ghost").run.run (.start plantedStore)).2.store = plantedStore := by
  have hunknown : (new 1).catalogue.find? "ghost" = none := rfl
  have hfields : swappedStore.get? ((new 1).key .fields "ghost") = some (.rules strayTable) := by
    decide +kernel
  have hrules : swappedStore.get? ((new 1).key .rules "ghost") = some (.fields ["size"]) := by
    decide +kernel
  obtain ⟨⟨-, hfirst, -⟩, ⟨-, hmissing, -⟩, -, hmissing', -⟩ :=
    notFound_iff_of_unknown hunknown (.start swappedStore)
  obtain ⟨-, ⟨hstays, -⟩, -⟩ := notFound_iff_of_unknown hunknown (.start plantedStore)
  refine ⟨hunknown, hfirst, hmissing.mpr fun names hget => ?_,
    hmissing'.mpr fun table hget => ?_, hstays⟩
  · cases hfields.symm.trans hget
  · cases hrules.symm.trans hget

/-- **A planted value is handed out** as an answer about a contract that there is not. -/
theorem unknown_answered_of_planted :
    (new 1).catalogue.find? "ghost" = none ∧
      (((new 1).fields "ghost").run.run (.start plantedStore)).1 = .ok ["size"] ∧
      (((new 1).optionalRules "ghost").run.run (.start plantedStore)).1
        = .ok (.ofList [("size", ["numeric"])]) ∧
      (((new 1).dataFields "ghost").run.run (.start plantedStore)).1
        = .error (.notFound "ghost") := by
  decide +kernel

end Registry

end FieldRules

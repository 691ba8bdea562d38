/-
# The rules of every contract, asked for in any order

To give the rules of every contract, a registry asks for those of one contract after the other and
then puts the answers in the order of the names.  Each question may write into the store what the
next one finds there, so it has to be shown that the order of asking does not matter.

* What is left in the store is said key by key.  The table of a contract that was asked for stands
  under its key (`get?_gather_of_mem`), a contract that does not compile leaves nothing under its
  key (`get?_gather_of_fault`), and every other key has what it had before
  (`get?_gather_of_ne`).
* The answer is that of a pass over the catalogue without a store (`assemble_ownRules`).  So it
  fails as a check of every contract does that stops at the first fault (`fault?_compiled`), and
  else it has the rules of each contract in its place.
-/
import FieldRules.Proofs.Registry.Actions
import FieldRules.Proofs.Registry.Checking

namespace FieldRules

/-! ## 1. Asking for the rules of one contract -/

@[simp] theorem Store.kind_set (s : Store) (key : StoreKey) (value : StoredValue) :
    (s.set key value).kind = s.kind := by
  obtain ⟨kind, values⟩ := s
  cases kind <;> rfl

namespace Registry

variable {r : Registry}

theorem Records.kind_eq {s t : Store} (h : r.Records s t) : t.kind = s.kind := by
  induction h with
  | refl => rfl
  | write _ _ ih => rw [Store.kind_set, ih]

/-- Of an unknown name nothing is asked, and of a known one the table. -/
theorem store_rules (r : Registry) (name : String) (j : Journal) :
    ((r.rules name).run.run j).2.store
      = match r.contract name with
        | .error _ => j.store
        | .ok _ => ((r.ruleTable name).run.run j).2.store := by
  unfold rules
  cases r.contract name with
  | error e => rfl
  | ok c =>
    have hrun := run_map (r.ruleTable name)
      (fun table => (table.markRequired c.required).texts) j
    exact congrArg (fun out => out.2.store) hrun

/-- What the question for a table leaves: the table that was computed, if it was not there. -/
theorem store_ruleTable (r : Registry) (name : String) (j : Journal) :
    ((r.ruleTable name).run.run j).2.store
      = match (j.store.get? (r.key .rules name)).bind StoredValue.rules?,
            r.own Contract.ruleTable name with
        | none, .ok table => j.store.set (r.key .rules name) (.rules table)
        | _, _ => j.store := by
  unfold ruleTable
  cases h : (j.store.get? (r.key .rules name)).bind StoredValue.rules? with
  | some found =>
    rw [run_answer_of_hit StoredValue.rules Contract.ruleTable h]
  | none =>
    rw [run_answer_of_miss StoredValue.rules Contract.ruleTable h]
    cases r.own Contract.ruleTable name <;> rfl

/-- Every other key has what it had. -/
theorem get?_rules_of_ne {name : String} {key : StoreKey} (hne : key ≠ r.key .rules name)
    (j : Journal) : ((r.rules name).run.run j).2.store.get? key = j.store.get? key := by
  rw [store_rules]
  split
  · rfl
  · rw [store_ruleTable]
    split
    · rw [Store.get?_set, if_neg fun h => hne h.1]
    · rfl

/-- The table of a contract that compiles is in the store afterwards, if it keeps anything. -/
theorem get?_rules_self {name : String} {c : Contract} {table : RuleTable} {j : Journal}
    (hc : r.catalogue.find? name = some c) (htable : c.ruleTable = .ok table)
    (hkind : j.store.kind = .memory) (htrue : j.store.Truthful r .rules name) :
    ((r.rules name).run.run j).2.store.get? (r.key .rules name) = some (.rules table) := by
  have hown : r.own Contract.ruleTable name = .ok table := by
    rw [own_of_find? hc, htable]
    rfl
  rw [store_rules, contract_eq_ok_iff.mpr hc, store_ruleTable, hown]
  cases h : (j.store.get? (r.key .rules name)).bind StoredValue.rules? with
  | none => rw [Store.get?_set, if_pos ⟨rfl, hkind⟩]
  | some found =>
    -- what was found is truthful, so it is the contract's own table
    obtain ⟨value, hvalue, hfound⟩ := Option.bind_eq_some_iff.mp h
    cases value with
    | fields names => cases hfound
    | rules other =>
      have hsaid := htrue _ hvalue rfl
      have hvalueOf : r.ownValue .rules name = .ok (.rules table) := by
        rw [ownValue, own_of_find? hc, Contract.value, htable]
        rfl
      rw [hvalueOf] at hsaid
      rw [hvalue, Except.ok.inj hsaid]

/-! ## 2. What asking for many leaves -/

/-- **Keys that are not asked for stay as they are.** -/
theorem get?_gather_of_ne {key : StoreKey} (order : List String) (j : Journal)
    (hne : ∀ name ∈ order, key ≠ r.key .rules name) :
    ((r.gather order).run j).2.store.get? key = j.store.get? key := by
  induction order generalizing j with
  | nil => rfl
  | cons name rest ih =>
    obtain ⟨hfirst, hrest⟩ := List.forall_mem_cons.mp hne
    rw [run_gather_cons, ih _ hrest, get?_rules_of_ne hfirst]

/-- **The table of each contract that was asked for is there**, wherever in the order it stood. -/
theorem get?_gather_of_mem {name : String} {c : Contract} {table : RuleTable}
    (hc : r.catalogue.find? name = some c) (htable : c.ruleTable = .ok table)
    (order : List String) (j : Journal) (hkind : j.store.kind = .memory)
    (htrue : j.store.Truthful r .rules name) (hmem : name ∈ order) :
    ((r.gather order).run j).2.store.get? (r.key .rules name) = some (.rules table) := by
  induction order generalizing j with
  | nil => cases hmem
  | cons first rest ih =>
    have hrec := (r.answers_rules first).records j
    rw [run_gather_cons]
    by_cases hlater : name ∈ rest
    · exact ih _ (hrec.kind_eq.trans hkind) (hrec.truthful htrue) hlater
    · -- it is asked for now, and the ones that follow have other keys
      have hfirst : name = first := (List.mem_cons.mp hmem).resolve_right hlater
      subst hfirst
      have hothers : ∀ other ∈ rest, r.key .rules name ≠ r.key .rules other := by
        intro other hother hkey
        obtain ⟨-, -, rfl⟩ := key_inj hkey
        exact hlater hother
      rw [get?_gather_of_ne rest _ hothers]
      exact get?_rules_self hc htable hkind htrue

/-- A value belongs under the key of a table only when the contract compiles. -/
theorem compiles_of_ownValue {name : String} {c : Contract} {value : StoredValue}
    (hc : r.catalogue.find? name = some c) (h : r.ownValue .rules name = .ok value) :
    c.Compiles := by
  rw [Contract.compiles_iff, ← fault?_eq_none_iff]
  rw [ownValue, own_of_find? hc] at h
  have hnone : fault? ((c.value .rules).mapError QueryFault.untyped) = none := by
    rw [h]
    rfl
  rw [fault?_mapError, Option.map_eq_none_iff, Contract.value, fault?_map] at hnone
  exact hnone

/-- **Nothing comes in under the key of a contract that does not compile.** -/
theorem get?_gather_of_fault {name : String} {c : Contract}
    (hc : r.catalogue.find? name = some c) (hfault : ¬c.Compiles) (order : List String)
    (j : Journal) (hnone : j.store.get? (r.key .rules name) = none) :
    ((r.gather order).run j).2.store.get? (r.key .rules name) = none := by
  cases hget : ((r.gather order).run j).2.store.get? (r.key .rules name) with
  | none => rfl
  | some value =>
    rcases (r.records_gather order j).get?_eq_some hget with hold | ⟨kind, other, hkey, hown⟩
    · rw [hnone] at hold
      cases hold
    · obtain ⟨-, rfl, rfl⟩ := key_inj hkey
      exact absurd (compiles_of_ownValue hc hown) hfault

/-! ## 3. Answers put in order -/

theorem lookup_ownRules {name : String} {order : List String} (h : name ∈ order) :
    (r.ownRules order).lookup name = some (r.own Contract.rules name) := by
  induction order with
  | nil => cases h
  | cons first rest ih =>
    rw [ownRules, List.map_cons, List.lookup_cons]
    by_cases hfirst : name = first
    · simp [hfirst]
    · rw [beq_eq_false_iff_ne.mpr hfirst]
      exact ih ((List.mem_cons.mp h).resolve_left hfirst)

/-- Putting answers in order is a pass over the names, whatever order they came in. -/
theorem assemble_ownRules {order : List String} (names : List String)
    (h : ∀ name ∈ names, name ∈ order) :
    assemble (r.ownRules order) names
      = names.mapM fun name => (r.own Contract.rules name).map (Prod.mk name) := by
  induction names with
  | nil => rfl
  | cons name rest ih =>
    obtain ⟨hname, hrest⟩ := List.forall_mem_cons.mp h
    rw [assemble, lookup_ownRules hname, ih hrest, List.mapM_cons]
    cases r.own Contract.rules name with
    | error e => rfl
    | ok texts =>
      cases rest.mapM fun name => (r.own Contract.rules name).map (Prod.mk name) <;> rfl

/-- The rules of every contract in name order, without a store. -/
def compiled (r : Registry) : Except QueryFault (List (String × RuleTexts)) :=
  r.catalogue.contracts.mapM fun c => (c.rules.mapError QueryFault.untyped).map (Prod.mk c.name)

/-- **Whatever the order of asking, the answer is the same.** -/
theorem assemble_eq_compiled {order : List String} (h : order.Perm r.catalogue.names) :
    assemble (r.ownRules order) r.catalogue.names = r.compiled := by
  rw [assemble_ownRules _ fun name hname => h.mem_iff.mpr hname, Catalogue.names, List.mapM_map]
  refine mapM_congr_left fun c hc => ?_
  rw [Function.comp_apply, own_of_find? (Catalogue.find?_of_mem hc)]

/-- **All rules fail with the first fault of a check.** -/
theorem fault?_compiled (r : Registry) :
    fault? r.compiled
      = (r.catalogue.contracts.flatMap Contract.faults).head?.map QueryFault.untyped := by
  rw [compiled, fault?_mapM, List.head?_filterMap, List.head?_flatMap, List.map_findSome?]
  refine congrArg (fun f => r.catalogue.contracts.findSome? f) (funext fun c => ?_)
  rw [fault?_map, fault?_mapError, Contract.fault?_rules, Contract.failures_eq_faults,
    Function.comp_apply]

theorem compiled_of_report {report : FailureReport} (h : r.checkContracts = some report) :
    r.compiled = .error (.untyped report.first) := by
  rw [← fault?_eq_some_iff, fault?_compiled, ← failures_of_checkContracts h]
  rfl

/-- When there is nothing to report, each contract has its own rules, in name order. -/
theorem compiled_of_no_report (h : r.checkContracts = none) :
    ∃ tables, r.compiled = .ok tables ∧ tables.map Prod.fst = r.catalogue.names ∧
      List.Forall₂ (fun (c : Contract) entry => entry.1 = c.name ∧ c.rules = .ok entry.2)
        r.catalogue.contracts tables := by
  have hnil : r.catalogue.contracts.flatMap Contract.faults = [] := by
    refine List.flatMap_eq_nil_iff.mpr fun c hc => ?_
    rw [← Contract.failures_eq_faults, Contract.failures_eq_nil_iff]
    exact r.checkContracts_eq_none_iff.mp h c hc
  have hnone : fault? r.compiled = none := by
    rw [fault?_compiled, hnil]
    rfl
  obtain ⟨tables, htables⟩ := fault?_eq_none_iff.mp hnone
  have hall : List.Forall₂ (fun (c : Contract) entry => entry.1 = c.name ∧ c.rules = .ok entry.2)
      r.catalogue.contracts tables := by
    refine ((mapM_eq_ok_iff _ _ _).mp htables).imp fun c entry hentry => ?_
    cases hrules : c.rules with
    | error e =>
      rw [hrules] at hentry
      cases hentry
    | ok texts =>
      rw [hrules] at hentry
      cases hentry
      exact ⟨rfl, rfl⟩
  have hnames : List.Forall₂ (· = ·) (tables.map Prod.fst) r.catalogue.names := by
    rw [Catalogue.names, List.forall₂_map_left_iff, List.forall₂_map_right_iff]
    exact (hall.imp fun _ _ hentry => hentry.1).flip
  exact ⟨tables, htables, List.forall₂_eq_eq_eq ▸ hnames, hall⟩

end Registry

end FieldRules

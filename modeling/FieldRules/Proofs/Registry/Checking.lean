/-
# Checking every contract

A registry is checked contract by contract in name order, and the reports are joined.  Nothing is
lost in a join, so the report holds what each contract's own check has found
(`failures_of_checkContracts`), and there is no report exactly when every contract has rules
(`checkContracts_eq_none_iff`).

The contract that a report names is harder to see, because it is settled join by join.  Two
reports of different contracts drop it, and it never comes back; names tell contracts apart, so
it is kept exactly when a single contract fails (`contract_of_checkContracts_iff`).
-/
import FieldRules.Proofs.Catalogue.Names
import FieldRules.Proofs.Contract.Checking
import FieldRules.Proofs.FailureReport.Joining
import FieldRules.Workspace

namespace FieldRules

namespace Registry

/-! ## 1. The report of a registry -/

/-- The reports of the contracts that have one, in name order. -/
def reports (r : Registry) : List FailureReport := r.catalogue.contracts.filterMap Contract.report?

theorem mem_reports_iff {r : Registry} {report : FailureReport} :
    report ∈ r.reports ↔ ∃ c ∈ r.catalogue.contracts, c.report? = some report :=
  List.mem_filterMap

theorem checkContracts_eq_none_iff (r : Registry) :
    r.checkContracts = none ↔ ∀ c ∈ r.catalogue.contracts, c.Compiles := by
  rw [checkContracts, joinReports_eq_none_iff, List.filterMap_eq_nil_iff]
  simp only [Contract.report?_eq_none_iff]

/-- What the reports of contracts hold is what the checks of contracts have found. -/
theorem flatMap_failures_reports (contracts : List Contract) :
    (contracts.filterMap Contract.report?).flatMap FailureReport.failures
      = contracts.flatMap Contract.faults := by
  induction contracts with
  | nil => rfl
  | cons c rest ih =>
    rw [List.flatMap_cons, ← ih, ← Contract.failures_eq_faults]
    cases hreport : c.report? with
    | none =>
      have hnil := c.failures_eq_nil_iff.mpr (c.report?_eq_none_iff.mp hreport)
      rw [List.filterMap_cons_none hreport, hnil, List.nil_append]
    | some report =>
      rw [List.filterMap_cons_some hreport, List.flatMap_cons,
        (Contract.of_report?_eq_some hreport).1]

section

variable {r : Registry} {report : FailureReport} (h : r.checkContracts = some report)

include h

/-- **Every fault is reported**, contract by contract in name order. -/
theorem failures_of_checkContracts :
    report.failures = r.catalogue.contracts.flatMap Contract.faults := by
  rw [failures_of_joinReports h, flatMap_failures_reports]

/-- **A report names the one contract that fails**, and none if there are several. -/
theorem contract_of_checkContracts_iff (name : String) :
    report.contract = some name ↔ ∃ c ∈ r.catalogue.contracts, c.name = name ∧ ¬c.Compiles ∧
      ∀ d ∈ r.catalogue.contracts, ¬d.Compiles → d = c := by
  rw [contract_of_joinReports_iff h]
  constructor
  · intro hall
    -- there is a report, and so a contract that fails
    have hfails : ¬∀ c ∈ r.catalogue.contracts, c.Compiles := by
      rw [← checkContracts_eq_none_iff, h]
      exact Option.some_ne_none report
    push Not at hfails
    obtain ⟨c, hc, hbroken⟩ := hfails
    have hname : ∀ d ∈ r.catalogue.contracts, ¬d.Compiles → d.name = name := by
      intro d hd hnot
      obtain ⟨found, hfound⟩ : ∃ found, d.report? = some found :=
        Option.ne_none_iff_exists'.mp fun hnone => hnot (d.report?_eq_none_iff.mp hnone)
      have hsaid := hall found (mem_reports_iff.mpr ⟨d, hd, hfound⟩)
      rw [(Contract.of_report?_eq_some hfound).2] at hsaid
      exact Option.some.inj hsaid
    exact ⟨c, hc, hname c hc hbroken, hbroken, fun d hd hnot =>
      Catalogue.eq_of_name_eq hd hc ((hname d hd hnot).trans (hname c hc hbroken).symm)⟩
  · rintro ⟨c, -, rfl, -, honly⟩ found hfound
    obtain ⟨d, hd, hreport⟩ := mem_reports_iff.mp hfound
    have hbroken : ¬d.Compiles := fun hok => by
      rw [d.report?_eq_none_iff.mpr hok] at hreport
      cases hreport
    rw [(Contract.of_report?_eq_some hreport).2, honly d hd hbroken]

end

/-! ## 2. The check -/

/-- **A check reports every broken property, once and in order.**  It neither asks the store for
anything nor writes anything into it, whatever the store holds.  There is nothing to report
exactly when every contract has rules.  Otherwise the report goes through the contracts in
increasing order of their names, and through the fields of each but the id field in the order of
its schema; it holds one failure for each field that fails in a schema of its own, the one that it
fails with there.  And it names a contract exactly when a single contract fails, and then
that one. -/
theorem perform_checkContracts (r : Registry) (j : Journal) :
    (r.perform .checkContracts).run j = ((.checked r.checkContracts, r), j) ∧
      (r.checkContracts = none ↔ ∀ c ∈ r.catalogue.contracts, ∃ texts, c.rules = .ok texts) ∧
      r.catalogue.names.Pairwise (· < ·) ∧
      ∀ report, r.checkContracts = some report →
        report.failures
            = r.catalogue.contracts.flatMap (fun c => c.dataFields.filterMap c.fieldFault?) ∧
          (∀ c ∈ r.catalogue.contracts, c.dataFields.Nodup ∧ ∀ name ∈ c.dataFields, ∀ e,
            c.fieldFault? name = some e → e.property = name ∧ e ∈ report.failures) ∧
          ∀ name, report.contract = some name ↔
            ∃ c ∈ r.catalogue.contracts, c.name = name ∧ (¬∃ texts, c.rules = .ok texts) ∧
              ∀ d ∈ r.catalogue.contracts, (¬∃ texts, d.rules = .ok texts) → d = c := by
  refine ⟨rfl, r.checkContracts_eq_none_iff, r.catalogue.increasing_names, fun report h => ?_⟩
  have hfailures := failures_of_checkContracts h
  refine ⟨hfailures, fun c hc => ⟨c.nodup_dataFields, fun name hname e hfault => ⟨?_, ?_⟩⟩,
    contract_of_checkContracts_iff h⟩
  · exact Contract.property_of_fieldFault? (Contract.ne_idField_of_mem_dataFields hname) hfault
  · rw [hfailures]
    exact List.mem_flatMap.mpr ⟨c, hc, List.mem_filterMap.mpr ⟨name, hname, hfault⟩⟩

/-! ### Two registries

Two properties of the contract `half` fail, one of them in the second definition of its `allOf`,
and its id field would fail too if it were looked at.  With `none` beside it the report names no
contract. -/

/-- A contract with two properties that have no type. -/
def halfContract : Contract :=
  ⟨"half", ⟨[("key", .null), ("size", .object [("minimum", .integer 3)]),
    ("age", .object [("type", .string "integer")]),
    ("code", .object [("allOf", .array [.object [("type", .string "string")], .null])])],
    by decide⟩, ["key"], "key"⟩

/-- A contract of which every property has a type. -/
def fullContract : Contract :=
  ⟨"full", ⟨[("age", .object [("type", .string "integer")])], by decide⟩, [], "id"⟩

/-- A contract of which no property has a type. -/
def noneContract : Contract :=
  ⟨"none", ⟨[("id", .null), ("note", .object [])], by decide⟩, [], "id"⟩

def halfRegistry : Registry := ⟨1, (Catalogue.empty.insert halfContract).insert fullContract⟩

def brokenRegistry : Registry := ⟨1, halfRegistry.catalogue.insert noneContract⟩

def halfReport : FailureReport :=
  ⟨some "half", ⟨"size", .property "size"⟩, [⟨"code", (FieldPath.property "code").member 1⟩]⟩

def brokenReport : FailureReport :=
  ⟨none, ⟨"size", .property "size"⟩,
    [⟨"code", (FieldPath.property "code").member 1⟩, ⟨"note", .property "note"⟩]⟩

theorem perform_checkContracts_halfRegistry :
    halfRegistry.checkContracts = some halfReport ∧
      halfReport.failures = halfRegistry.catalogue.contracts.flatMap
        (fun c => c.dataFields.filterMap c.fieldFault?) ∧
      (⟨"code", (FieldPath.property "code").member 1⟩ : UntypedProperty) ∈ halfReport.failures ∧
      (∃ c ∈ halfRegistry.catalogue.contracts, c.name = "half" ∧ (¬∃ texts, c.rules = .ok texts) ∧
        ∀ d ∈ halfRegistry.catalogue.contracts, (¬∃ texts, d.rules = .ok texts) → d = c) ∧
      brokenRegistry.checkContracts = some brokenReport ∧
      brokenReport.failures = brokenRegistry.catalogue.contracts.flatMap
        (fun c => c.dataFields.filterMap c.fieldFault?) ∧
      ¬∃ c ∈ brokenRegistry.catalogue.contracts, c.name = "half" ∧
        (¬∃ texts, c.rules = .ok texts) ∧
        ∀ d ∈ brokenRegistry.catalogue.contracts, (¬∃ texts, d.rules = .ok texts) → d = c := by
  have hhalf : halfRegistry.checkContracts = some halfReport := by decide +kernel
  have hbroken : brokenRegistry.checkContracts = some brokenReport := by decide +kernel
  obtain ⟨-, -, -, hsaid⟩ := perform_checkContracts halfRegistry (.start (.new .memory))
  obtain ⟨-, -, -, hsaid'⟩ := perform_checkContracts brokenRegistry (.start (.new .memory))
  obtain ⟨hfailures, hfields, hcontract⟩ := hsaid halfReport hhalf
  obtain ⟨-, hfield⟩ := hfields halfContract (by decide +kernel)
  obtain ⟨-, hcode⟩ := hfield "code" (by decide +kernel)
    ⟨"code", (FieldPath.property "code").member 1⟩ (by decide +kernel)
  obtain ⟨hfailures', -, hcontract'⟩ := hsaid' brokenReport hbroken
  refine ⟨hhalf, hfailures, hcode, (hcontract "half").mp rfl, hbroken, hfailures', ?_⟩
  rw [← hcontract' "half"]
  exact nofun

end Registry

end FieldRules

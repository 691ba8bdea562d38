/-
# Joined reports

Reports are joined one by one, and each join may drop the contract that the failures are said to
be of.  What is left after any number of joins is easily said: all the failures, in order
(`failures_foldl`), and a contract only if it is the one of every report (`contract_foldl_iff`).
So a contract that was dropped never comes back, and one that is kept was never in doubt.

The joins need not go from the first report to the last.  A `Joining` is any way to join a list of
reports two at a time, and all of them come to what joining one by one comes to
(`Registry.joinReports_reports`), because joining is associative (`append_assoc`).
-/
import Mathlib
import FieldRules.Registry

namespace FieldRules

namespace FailureReport

/-! ## Two reports -/

theorem size_append (a b : FailureReport) : (a ++ b).size = a.size + b.size := by
  rw [size, failures_append, List.length_append]
  rfl

theorem about_append (a b : FailureReport) (property : String) :
    (a ++ b).about property = a.about property ++ b.about property := by
  rw [about, failures_append, List.filter_append]
  rfl

/-- **A contract is kept only when both agree on it.** -/
theorem contract_append_iff (a b : FailureReport) (name : String) :
    (append a b).contract = some name ↔ a.contract = some name ∧ b.contract = some name := by
  unfold append
  by_cases h : a.contract = b.contract
  · simp [h]
  · simp only [if_neg h]
    constructor
    · intro hnone
      cases hnone
    · rintro ⟨ha, hb⟩
      exact absurd (ha.trans hb.symm) h

/-! ## Joining one by one -/

theorem failures_foldl (reports : List FailureReport) (a : FailureReport) :
    (reports.foldl append a).failures = a.failures ++ reports.flatMap failures := by
  induction reports generalizing a with
  | nil => simp
  | cons b rest ih =>
    have happend : (append a b).failures = a.failures ++ b.failures := failures_append a b
    rw [List.foldl_cons, ih, happend, List.flatMap_cons, List.append_assoc]

theorem contract_foldl_iff (reports : List FailureReport) (a : FailureReport) (name : String) :
    (reports.foldl append a).contract = some name ↔
      a.contract = some name ∧ ∀ b ∈ reports, b.contract = some name := by
  induction reports generalizing a with
  | nil => simp
  | cons b rest ih =>
    rw [List.foldl_cons, ih, contract_append_iff, List.forall_mem_cons, and_assoc]

/-! ## Joining two at a time -/

/-- Reports that hold the same failures and are of the same contract, if any, are the same. -/
theorem eq_of_failures {a b : FailureReport} (hfailures : a.failures = b.failures)
    (hcontract : a.contract = b.contract) : a = b := by
  obtain ⟨contract, first, rest⟩ := a
  obtain ⟨contract', first', rest'⟩ := b
  obtain ⟨rfl, rfl⟩ := List.cons.inj hfailures
  cases hcontract
  rfl

/-- **Joining is associative**, also in the contract that is left. -/
theorem append_assoc (a b c : FailureReport) :
    append (append a b) c = append a (append b c) := by
  refine eq_of_failures (List.append_assoc a.failures b.failures c.failures)
    (Option.ext fun name => ?_)
  rw [contract_append_iff, contract_append_iff, contract_append_iff, contract_append_iff,
    and_assoc]

instance : Std.Associative append := ⟨append_assoc⟩

/-- A way to join reports two at a time. -/
inductive Joining where
  | one (report : FailureReport)
  | both (before after : Joining)

namespace Joining

/-- The reports that are joined, in order. -/
def reports : Joining → List FailureReport
  | one report => [report]
  | both before after => before.reports ++ after.reports

/-- What comes of joining them. -/
def outcome : Joining → FailureReport
  | one report => report
  | both before after => before.outcome ++ after.outcome

/-- Every list of reports can be joined, unless it is empty. -/
theorem exists_reports_eq (first : FailureReport) (rest : List FailureReport) :
    ∃ j : Joining, j.reports = first :: rest := by
  induction rest generalizing first with
  | nil => exact ⟨one first, rfl⟩
  | cons second others ih =>
    obtain ⟨j, hj⟩ := ih second
    exact ⟨both (one first) j, congrArg (List.cons first) hj⟩

end Joining

end FailureReport

namespace Registry

/-! ## Reports of a list -/

theorem joinReports_eq_none_iff {reports : List FailureReport} :
    joinReports reports = none ↔ reports = [] := by
  cases reports <;> simp [joinReports]

/-- **A joined report holds every failure**, those of the first report first. -/
theorem failures_of_joinReports {reports : List FailureReport} {report : FailureReport}
    (h : joinReports reports = some report) :
    report.failures = reports.flatMap FailureReport.failures := by
  cases reports with
  | nil => cases h
  | cons a rest =>
    cases h
    rw [FailureReport.failures_foldl, List.flatMap_cons]

/-- **A joined report is of a contract when all of its reports are.** -/
theorem contract_of_joinReports_iff {reports : List FailureReport} {report : FailureReport}
    (h : joinReports reports = some report) (name : String) :
    report.contract = some name ↔ ∀ a ∈ reports, a.contract = some name := by
  cases reports with
  | nil => cases h
  | cons a rest =>
    cases h
    rw [FailureReport.contract_foldl_iff, List.forall_mem_cons]

/-- Two lists that are joined one after the other. -/
theorem joinReports_append {l m : List FailureReport} {a b : FailureReport}
    (hl : joinReports l = some a) (hm : joinReports m = some b) :
    joinReports (l ++ m) = some (a ++ b) := by
  cases l with
  | nil => cases hl
  | cons first rest =>
    cases m with
    | nil => cases hm
    | cons second others =>
      cases hl
      cases hm
      rw [List.cons_append, joinReports, List.foldl_append, List.foldl_cons, List.foldl_assoc]
      rfl

/-- **However reports are joined, the outcome is that of joining them one by one.** -/
theorem joinReports_reports (j : FailureReport.Joining) :
    joinReports j.reports = some j.outcome := by
  induction j with
  | one report => rfl
  | both before after ihbefore ihafter => exact joinReports_append ihbefore ihafter

end Registry

namespace FailureReport

/-! ## The laws of joining -/

theorem ofList?_eq_none_iff {l : List UntypedProperty} : ofList? l = none ↔ l = [] := by
  cases l with
  | nil => exact ⟨fun _ => rfl, fun _ => rfl⟩
  | cons first rest => exact ⟨nofun, nofun⟩

/-- **Joining reports is associative and loses nothing.**  Of two reports the failures come one
after the other, and with them their number, the first of them and those about each property, which
are the failures with its name.  Every list of reports but the empty one can be joined two at a
time; in whatever way that is done, the outcome is the one of joining one by one, and it is of a
contract when every one of the reports is of that contract, and else of none.  A list of failures
makes a report that holds just these, and only the empty list makes none. -/
theorem joins_lose_nothing :
    (∀ a b c : FailureReport, a ++ b ++ c = a ++ (b ++ c)) ∧
    (∀ a b : FailureReport, (a ++ b).failures = a.failures ++ b.failures ∧
      (a ++ b).size = a.size + b.size ∧ (a ++ b).first = a.first ∧
      ∀ property, (a ++ b).about property = a.about property ++ b.about property ∧
        a.about property = a.failures.filter (·.property = property)) ∧
    (∀ first rest, ∃ j : Joining, j.reports = first :: rest) ∧
    (∀ j : Joining, Registry.joinReports j.reports = some j.outcome ∧
      j.outcome.failures = j.reports.flatMap failures ∧
      (∀ name, j.outcome.contract = some name ↔ ∀ a ∈ j.reports, a.contract = some name) ∧
      (j.outcome.contract = none ↔ ¬∃ name, ∀ a ∈ j.reports, a.contract = some name)) ∧
    (∀ first rest, ∃ report, ofList? (first :: rest) = some report ∧
      report.failures = first :: rest) ∧
    ∀ l, ofList? l = none ↔ l = [] := by
  refine ⟨append_assoc, ?_, Joining.exists_reports_eq, ?_, ?_, fun _ => ofList?_eq_none_iff⟩
  · intro a b
    exact ⟨failures_append a b, size_append a b, rfl,
      fun property => ⟨about_append a b property, rfl⟩⟩
  · intro j
    have hjoined := Registry.joinReports_reports j
    have hcontract := Registry.contract_of_joinReports_iff hjoined
    refine ⟨hjoined, Registry.failures_of_joinReports hjoined, hcontract, ?_⟩
    simp only [← hcontract, ← Option.isSome_iff_exists, Option.not_isSome_iff_eq_none]
  · intro first rest
    exact ⟨⟨none, first, rest⟩, rfl, rfl⟩

/-- The contract of the first and the last is not the one of the second, and stays dropped. -/
example (a b c : UntypedProperty) :
    (((single a).attributeTo "A" ++ (single b).attributeTo "B")
      ++ (single c).attributeTo "A").contract = none ∧
    ((single a).attributeTo "A" ++ ((single b).attributeTo "B"
      ++ (single c).attributeTo "A")).contract = none :=
  ⟨rfl, rfl⟩

end FailureReport

end FieldRules

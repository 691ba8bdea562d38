/-
# What goes wrong when rules are derived

There is one way for a definition to have no rules: it does not say what type it has, and is
not of a kind that may leave it out.  An `UntypedProperty` names the property and the path of
the definition.  A `FailureReport` is a list of such failures that is never empty, and may say
which contract they belong to.

Reports are joined with `++`: the failures of the first before those of the
second (`failures_append`), and the contract kept only when both agree on it.
-/
import FieldRules.FieldPath

namespace FieldRules

/-! ## 1. One failure -/

/-- A definition whose type cannot be told. -/
structure UntypedProperty where
  property : String
  path : FieldPath
deriving DecidableEq

/-- The text of a failure. -/
def UntypedProperty.message (failure : UntypedProperty) : String :=
  "type has not been set for " ++ failure.property ++ " (" ++ failure.path.text ++ ")"

/-! ## 2. Reports -/

/-- One or more failures, all of one contract when `contract` names it. -/
structure FailureReport where
  contract : Option String
  first : UntypedProperty
  rest : List UntypedProperty
deriving DecidableEq

namespace FailureReport

/-- The failures, in order. -/
def failures (report : FailureReport) : List UntypedProperty := report.first :: report.rest

/-- The report of one failure, of no contract in particular. -/
def single (failure : UntypedProperty) : FailureReport := ⟨none, failure, []⟩

/-- The report of a list of failures, if there are any. -/
def ofList? : List UntypedProperty → Option FailureReport
  | [] => none
  | first :: rest => some ⟨none, first, rest⟩

/-- The same failures, said to be those of a contract. -/
def attributeTo (report : FailureReport) (contract : String) : FailureReport :=
  { report with contract := some contract }

/-- Both reports, one after the other. -/
def append (a b : FailureReport) : FailureReport :=
  ⟨if a.contract = b.contract then a.contract else none, a.first, a.rest ++ b.failures⟩

instance : Append FailureReport := ⟨append⟩

/-- How many failures there are. -/
def size (report : FailureReport) : Nat := report.failures.length

/-- The failures of the definitions of one property. -/
def about (report : FailureReport) (property : String) : List UntypedProperty :=
  report.failures.filter (·.property = property)

@[simp] theorem failures_append (a b : FailureReport) :
    (a ++ b).failures = a.failures ++ b.failures := rfl

@[simp] theorem failures_attributeTo (report : FailureReport) (contract : String) :
    (report.attributeTo contract).failures = report.failures := rfl

/-- The report of a list holds that list. -/
theorem failures_of_ofList? {l : List UntypedProperty} {report : FailureReport}
    (h : ofList? l = some report) : report.failures = l := by
  cases l with
  | nil => cases h
  | cons first rest =>
    cases h
    rfl

/-! ## 3. Text -/

/-- The failures as numbered lines, the first with number `n`. -/
def numbered : Nat → List UntypedProperty → String
  | _, [] => ""
  | n, failure :: rest =>
    "  " ++ toString n ++ ". " ++ failure.message ++ "\n" ++ numbered (n + 1) rest

/-- The text of a report: a heading with the number of failures, then a line for each. -/
def text (report : FailureReport) : String :=
  let heading := match report.contract with
    | some contract => contract ++ " failed to compile with "
    | none => "Compilation failed with "
  heading ++ toString report.size ++ " error(s):\n" ++ numbered 1 report.failures

end FailureReport

end FieldRules

/-
# Registries: contracts with a store of their answers

A registry is a catalogue of contracts and a scope in a store.  The field list and the compiled
rules of a contract are computed once and then taken from the store, under the key of the scope;
everything else is worked out from these two (`Registry.answer`).

* A query looks into the store before it looks for the contract, and a value of the wrong kind
  counts as none.
* A contract whose name is new drops both answers of that name from the store before it comes in;
  a name that is taken leaves everything as it is (`Registry.register`).
* `checkContracts` asks every contract in name order and needs no store; `allRules` takes the rules
  of every contract from the store, and the first failure in name order is its answer.
-/
import FieldRules.Catalogue
import FieldRules.Store

namespace FieldRules

/-! ## 1. Registries -/

/-- Why a query has no answer. -/
inductive QueryFault where
  | notFound (contract : String)
  | untyped (failure : UntypedProperty)
deriving DecidableEq

/-- The text of a fault. -/
def QueryFault.message : QueryFault → String
  | notFound contract => "contract '" ++ contract ++ "' not found"
  | untyped failure => failure.message

/-- A catalogue and the number of its scope. -/
structure Registry where
  number : Nat
  catalogue : Catalogue
deriving DecidableEq

/-- A query on a store. -/
abbrev Query := ExceptT QueryFault (StateM Journal)

namespace Registry

/-- A registry without contracts. -/
def new (number : Nat) : Registry := ⟨number, .empty⟩

/-- The name of the scope. -/
def scope (r : Registry) : String := "registry-" ++ toString r.number

/-- The key of an answer about a contract. -/
def key (r : Registry) (kind : AnswerKind) (contract : String) : StoreKey :=
  StoreKey.inScope r.scope kind contract

/-- The contract of a name. -/
def contract (r : Registry) (name : String) : Except QueryFault Contract :=
  match r.catalogue.find? name with
  | some c => .ok c
  | none => .error (.notFound name)

/-- Adds a contract whose name is new. -/
def register (r : Registry) (c : Contract) : StateM Journal (Except ContractFault Registry) := do
  if (r.catalogue.find? c.name).isSome then
    return .error (.duplicateName c.name)
  else
    let _ ← Journal.delete (r.key .fields c.name)
    let _ ← Journal.delete (r.key .rules c.name)
    return .ok { r with catalogue := r.catalogue.insert c }

/-! ## 2. Queries -/

/-- The stored value of a key, when the store has one that can be read as asked. -/
def storedAnswer? {α : Type} (key : StoreKey) (read : StoredValue → Option α) :
    StateM Journal (Option α) := do
  if ← Journal.has key then
    return (← Journal.get? key).bind read
  else
    return none

/-- An answer about a contract: from the store if it is there, else computed and stored. -/
def answer {α : Type} (r : Registry) (kind : AnswerKind) (read : StoredValue → Option α)
    (write : α → StoredValue) (compute : Contract → Except UntypedProperty α) (name : String) :
    Query α := do
  let key := r.key kind name
  match ← storedAnswer? key read with
  | some found => return found
  | none =>
    let c ← r.contract name
    let value ← (compute c).mapError QueryFault.untyped
    Journal.set key (write value)
    return value

/-- Every field of a contract. -/
def fields (r : Registry) : String → Query (List String) :=
  r.answer .fields StoredValue.fields? StoredValue.fields fun c => .ok c.fields

/-- Every field of a contract but its id field. -/
def dataFields (r : Registry) (name : String) : Query (List String) := do
  let c ← r.contract name
  return Contract.dropId c.idField (← r.fields name)

/-- The rule table of a contract. -/
def ruleTable (r : Registry) : String → Query RuleTable :=
  r.answer .rules StoredValue.rules? StoredValue.rules Contract.ruleTable

/-- The rules of a contract, none of them `required`. -/
def optionalRules (r : Registry) (name : String) : Query RuleTexts := do
  return (← r.ruleTable name).texts

/-- The rules of a contract. -/
def rules (r : Registry) (name : String) : Query RuleTexts := do
  let c ← r.contract name
  return ((← r.ruleTable name).markRequired c.required).texts

/-- The rules of a contract, less the omitted ones. -/
def rulesWithout (r : Registry) (name : String) (omission : Omission) : Query RuleTexts := do
  let c ← r.contract name
  return RuleTable.texts (((← r.ruleTable name).markRequired c.required).without omission)

/-! ## 3. Every contract at once -/

/-- The reports of a list joined into one, if there are any. -/
def joinReports : List FailureReport → Option FailureReport
  | [] => none
  | report :: rest => some (rest.foldl FailureReport.append report)

/-- The failures of every contract, in name order; nothing when there are none. -/
def checkContracts (r : Registry) : Option FailureReport :=
  joinReports (r.catalogue.contracts.filterMap Contract.report?)

/-- The rules of the named contracts, each with its answer, asked for in this order. -/
def gather (r : Registry) :
    List String → StateM Journal (List (String × Except QueryFault RuleTexts))
  | [] => return []
  | name :: rest => do
    let found ← (r.rules name).run
    return (name, found) :: (← r.gather rest)

/-- The answers put in the order of the names; the first failure in that order stands for all. -/
def assemble (answers : List (String × Except QueryFault RuleTexts)) :
    List String → Except QueryFault (List (String × RuleTexts))
  | [] => .ok []
  | name :: rest =>
    match (answers.lookup name).getD (.error (.notFound name)) with
    | .error e => .error e
    | .ok texts =>
      match assemble answers rest with
      | .error e => .error e
      | .ok others => .ok ((name, texts) :: others)

/-- The rules of every contract in name order, the contracts asked in the given order. -/
def allRulesIn (r : Registry) (order : List String) :
    StateM Journal (Except QueryFault (List (String × RuleTexts))) := do
  return assemble (← r.gather order) r.catalogue.names

/-- The rules of every contract in name order. -/
def allRules (r : Registry) : StateM Journal (Except QueryFault (List (String × RuleTexts))) :=
  r.allRulesIn r.catalogue.names

end Registry

end FieldRules

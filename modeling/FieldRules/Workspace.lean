/-
# Workspaces: registries that share stores

A workspace holds stores and registries, each registry with the store it uses; several may use
one store.  Registries are numbered from one in the order in which they are opened, in a counter
of 64 bits, and the number is the registry's scope.  A registry is reached through handles: a
copy of a handle reaches the same contracts in the same scope.  What is asked of a registry is
an `Action` and what comes back an `Answer`; a store may also be changed from outside.
`Workspace.run` follows a list of such events, so that statements can be made about every course
of events.
-/
import FieldRules.SchemaDirectory

namespace FieldRules

/-! ## 1. Actions on a registry -/

/-- What is asked of a registry. -/
inductive Action where
  | register (c : Contract)
  | contract (name : String)
  | names
  | fields (name : String)
  | dataFields (name : String)
  | optionalRules (name : String)
  | rules (name : String)
  | rulesWithout (name : String) (omission : Omission)
  | flush
  | checkContracts
  | allRules
  | allRulesIn (order : List String)

/-- What a registry answers. -/
inductive Answer where
  | registered (fault : Option ContractFault)
  | contract (found : Option Contract)
  | names (names : List String)
  | fields (names : Except QueryFault (List String))
  | rules (texts : Except QueryFault RuleTexts)
  | flushed
  | checked (report : Option FailureReport)
  | compiled (tables : Except QueryFault (List (String × RuleTexts)))

namespace Registry

/-- Does what is asked, and gives the registry that comes of it. -/
def perform (r : Registry) : Action → StateM Journal (Answer × Registry)
  | .register c => do
    match ← r.register c with
    | .ok new => return (.registered none, new)
    | .error fault => return (.registered (some fault), r)
  | .contract name => return (.contract (r.catalogue.find? name), r)
  | .names => return (.names r.catalogue.names, r)
  | .fields name => do return (.fields (← (r.fields name).run), r)
  | .dataFields name => do return (.fields (← (r.dataFields name).run), r)
  | .optionalRules name => do return (.rules (← (r.optionalRules name).run), r)
  | .rules name => do return (.rules (← (r.rules name).run), r)
  | .rulesWithout name omission => do
    return (.rules (← (r.rulesWithout name omission).run), r)
  | .flush => do
    Journal.clear
    return (.flushed, r)
  | .checkContracts => return (.checked r.checkContracts, r)
  | .allRules => do return (.compiled (← r.allRules), r)
  | .allRulesIn order => do return (.compiled (← r.allRulesIn order), r)

end Registry

/-! ## 2. Changes of a store from outside -/

/-- What is done to a store. -/
inductive StoreChange where
  | set (key : StoreKey) (value : StoredValue)
  | delete (key : StoreKey)
  | clear

/-- Changes a store; the answer says whether a deleted value was there. -/
def StoreChange.perform : StoreChange → StateM Journal Bool
  | set key value => do
    Journal.set key value
    return false
  | delete key => Journal.delete key
  | clear => do
    Journal.clear
    return false

/-! ## 3. Workspaces -/

/-- A registry and the position of its store. -/
structure Member where
  registry : Registry
  store : Nat
deriving DecidableEq

/-- Stores, registries that use them, and the handles in use, each with the position of its
registry. -/
structure Workspace where
  stores : List Store
  members : List Member
  handles : List Nat

namespace Workspace

/-- The workspace without stores and registries. -/
def empty : Workspace := ⟨[], [], []⟩

/-- Opens an empty store; its position is the number of stores before it. -/
def openStore (w : Workspace) (kind : StoreKind) : Workspace :=
  { w with stores := w.stores ++ [Store.new kind] }

/-- The number of the next registry: they are counted from one, in 64 bits. -/
def nextNumber (w : Workspace) : Nat := (w.members.length + 1) % Nat.pow 2 64

/-- Opens an empty registry on a store, with a new handle; its position is the number of
registries before it. -/
def openRegistry (w : Workspace) (store : Nat) : Workspace :=
  { w with
    members := w.members ++ [⟨Registry.new w.nextNumber, store⟩]
    handles := w.handles ++ [w.members.length] }

/-- Makes another handle of the registry at a position. -/
def share (w : Workspace) (position : Nat) : Workspace :=
  { w with handles := w.handles ++ [position] }

/-- The registry behind a handle, with its store. -/
def member? (w : Workspace) (handle : Nat) : Option Member :=
  w.handles[handle]?.bind fun position => w.members[position]?

/-- Runs something on a registry and its store, and gives the calls made on the store. -/
def onRegistry {α : Type} (w : Workspace) (position : Nat)
    (act : Registry → StateM Journal (α × Registry)) : Option (α × List Call × Workspace) :=
  match w.members[position]? with
  | none => none
  | some m =>
    match w.stores[m.store]? with
    | none => none
    | some store =>
      let ((answer, registry), journal) := act m.registry (Journal.start store)
      some (answer, journal.calls,
        { w with
          stores := w.stores.set m.store journal.store
          members := w.members.set position { m with registry } })

/-- Runs something on a store, and gives the calls made on it. -/
def onStore {α : Type} (w : Workspace) (position : Nat) (act : StateM Journal α) :
    Option (α × List Call × Workspace) :=
  match w.stores[position]? with
  | none => none
  | some store =>
    let (answer, journal) := act (Journal.start store)
    some (answer, journal.calls, { w with stores := w.stores.set position journal.store })

/-! ## 4. Courses of events -/

/-- What may happen in a workspace. -/
inductive Event where
  | openStore (kind : StoreKind)
  | openRegistry (store : Nat)
  | share (handle : Nat)
  | ask (handle : Nat) (action : Action)
  | change (store : Nat) (change : StoreChange)

/-- What an event gives: an answer of a registry, or the reply of a store. -/
inductive Outcome where
  | opened
  | answered (answer : Answer) (calls : List Call)
  | changed (reply : Bool) (calls : List Call)
  | missing

/-- The answer of an outcome that is one. -/
def Outcome.answer? : Outcome → Option Answer
  | answered answer _ => some answer
  | _ => none

/-- One event.  What is not there cannot be used: a registry is opened only on a store. -/
def step (w : Workspace) : Event → Outcome × Workspace
  | .openStore kind => (.opened, w.openStore kind)
  | .openRegistry store =>
    if store < w.stores.length then (.opened, w.openRegistry store) else (.missing, w)
  | .share handle =>
    match w.handles[handle]? with
    | some position => (.opened, w.share position)
    | none => (.missing, w)
  | .ask handle action =>
    match w.handles[handle]?.bind fun position => w.onRegistry position (·.perform action) with
    | some (answer, calls, next) => (.answered answer calls, next)
    | none => (.missing, w)
  | .change store change =>
    match w.onStore store change.perform with
    | some (reply, calls, next) => (.changed reply calls, next)
    | none => (.missing, w)

/-- A course of events, one after the other. -/
def run (w : Workspace) : List Event → List Outcome × Workspace
  | [] => ([], w)
  | event :: rest =>
    let (outcome, next) := w.step event
    let (outcomes, last) := next.run rest
    (outcome :: outcomes, last)

/-- What an action asked through a handle is answered. -/
def ask (w : Workspace) (handle : Nat) (action : Action) : Option Answer :=
  (w.step (.ask handle action)).1.answer?

end Workspace

end FieldRules

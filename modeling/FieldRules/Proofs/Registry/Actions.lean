/-
# What an action does

An action has an answer, may change the registry and may change the store.  The first two are
those of a registry that has no store, `Registry.plainAnswer` and `Registry.after`; the registry
that comes of an action never depends on the store (`after_perform`), and the answer does only
where the store is not truthful about something the action asks for (`answer_perform`).  What
can become of the store is listed once, in `Registry.Leaves` (`leaves_perform`).

Registering a contract is the one action that changes the registry.  It clears the registry's own
two keys of the name and no other key (`Registry.Clears`): the keys of other names and of other
registries are other texts, and so is every key outside the scopes.
-/
import FieldRules.Proofs.Registry.Answers
import FieldRules.Workspace

namespace FieldRules

/-! ## 1. Plain meaning -/

namespace Registry

/-- The registry that comes of an action: a contract whose name is new comes in, and nothing else
changes. -/
def after (r : Registry) : Action → Registry
  | .register c =>
    if (r.catalogue.find? c.name).isSome then r
    else { r with catalogue := r.catalogue.insert c }
  | _ => r

/-- The rules of the listed contracts, each worked out by itself. -/
def ownRules (r : Registry) (order : List String) : List (String × Except QueryFault RuleTexts) :=
  order.map fun name => (name, r.own Contract.rules name)

/-- The answer of an action when there is no store. -/
def plainAnswer (r : Registry) : Action → Answer
  | .register c =>
    .registered (if (r.catalogue.find? c.name).isSome then some (.duplicateName c.name) else none)
  | .contract name => .contract (r.catalogue.find? name)
  | .names => .names r.catalogue.names
  | .fields name => .fields (r.own (fun c => .ok c.fields) name)
  | .dataFields name => .fields (r.own (fun c => .ok c.dataFields) name)
  | .optionalRules name => .rules (r.own Contract.optionalRules name)
  | .rules name => .rules (r.own Contract.rules name)
  | .rulesWithout name omission => .rules (r.own (fun c => c.rulesWithout omission) name)
  | .flush => .flushed
  | .checkContracts => .checked r.checkContracts
  | .allRules => .compiled (assemble (r.ownRules r.catalogue.names) r.catalogue.names)
  | .allRulesIn order => .compiled (assemble (r.ownRules order) r.catalogue.names)

/-- The answers that an action asks the store for. -/
def topics (r : Registry) : Action → List (AnswerKind × String)
  | .fields name => [(.fields, name)]
  | .dataFields name => [(.fields, name)]
  | .optionalRules name => [(.rules, name)]
  | .rules name => [(.rules, name)]
  | .rulesWithout name _ => [(.rules, name)]
  | .allRules => r.catalogue.names.map fun name => (.rules, name)
  | .allRulesIn order => order.map fun name => (.rules, name)
  | _ => []

/-- The stores that an action can leave. -/
inductive Leaves (r : Registry) (s : Store) : Action → Store → Prop
  | registered {c : Contract} : r.catalogue.find? c.name = none →
      Leaves r s (.register c) ((s.delete (r.key .fields c.name)).delete (r.key .rules c.name))
  | flushed : Leaves r s .flush s.clear
  | recorded {action : Action} {t : Store} :
      r.after action = r → r.Records s t → Leaves r s action t

theorem after_register_of_taken {r : Registry} {c : Contract}
    (h : (r.catalogue.find? c.name).isSome) : r.after (.register c) = r := if_pos h

theorem after_register_of_new {r : Registry} {c : Contract}
    (h : ¬(r.catalogue.find? c.name).isSome) :
    r.after (.register c) = { r with catalogue := r.catalogue.insert c } := if_neg h

@[simp] theorem number_after (r : Registry) (action : Action) :
    (r.after action).number = r.number := by
  cases action with
  | register c =>
    by_cases h : (r.catalogue.find? c.name).isSome
    · rw [after_register_of_taken h]
    · rw [after_register_of_new h]
  | _ => rfl

/-- A contract that is there stays. -/
theorem find?_after {r : Registry} {name : String} {c : Contract}
    (h : r.catalogue.find? name = some c) (action : Action) :
    (r.after action).catalogue.find? name = some c := by
  cases action with
  | register d =>
    by_cases hd : (r.catalogue.find? d.name).isSome
    · rw [after_register_of_taken hd]
      exact h
    · have hne : name ≠ d.name := by
        rintro rfl
        exact hd (by rw [h]; rfl)
      rw [after_register_of_new hd, Catalogue.find?_insert, if_neg hne]
      exact h
  | _ => exact h

/-- Own answers stay as they are: what is there is never replaced. -/
theorem ownValue_after {r : Registry} {kind : AnswerKind} {name : String} {value : StoredValue}
    (h : r.ownValue kind name = .ok value) (action : Action) :
    (r.after action).ownValue kind name = .ok value := by
  obtain ⟨c, hc⟩ := find?_of_own_eq_ok h
  rw [ownValue, own_congr ((find?_after hc action).trans hc.symm)]
  exact h

/-- All that an action can bring into a store. -/
theorem Leaves.get?_eq_some {r : Registry} {s t : Store} {action : Action}
    (h : r.Leaves s action t) {key : StoreKey} {value : StoredValue}
    (hget : t.get? key = some value) : s.get? key = some value ∨
      ∃ kind name, key = r.key kind name ∧ r.ownValue kind name = .ok value := by
  cases h with
  | registered =>
    rw [Store.get?_delete, Store.get?_delete] at hget
    split at hget
    · cases hget
    · split at hget
      · cases hget
      · exact .inl hget
  | flushed =>
    rw [Store.get?_clear] at hget
    cases hget
  | recorded _ hrec => exact hrec.get?_eq_some hget

/-- A registry's own action keeps its store truthful about a name that is there. -/
theorem Leaves.truthful {r : Registry} {s t : Store} {action : Action} (h : r.Leaves s action t)
    {kind : AnswerKind} {name : String} {c : Contract} (hc : r.catalogue.find? name = some c)
    (hs : s.Truthful r kind name) : t.Truthful (r.after action) kind name := by
  have hsame : t.Truthful r kind name := by
    cases h with
    | registered => exact (hs.delete _).delete _
    | flushed => exact .clear s r kind name
    | recorded _ hrec => exact hrec.truthful hs
  exact hsame.congr_registry (r.number_after action).symm (hc.trans (find?_after hc action).symm)

/-- So does an action of a registry of another number. -/
theorem Leaves.truthful_of_number_ne {r q : Registry} {s t : Store} {action : Action}
    (h : q.Leaves s action t) (hne : r.number ≠ q.number) {kind : AnswerKind} {name : String}
    (hs : s.Truthful r kind name) : t.Truthful r kind name := by
  cases h with
  | registered => exact (hs.delete _).delete _
  | flushed => exact .clear s r kind name
  | recorded _ hrec => exact hrec.truthful_of_number_ne hne hs

/-- A registry's own action keeps a store faithful to it. -/
theorem Leaves.faithful {r : Registry} {s t : Store} {action : Action} (h : r.Leaves s action t)
    (hs : s.Faithful r) : t.Faithful (r.after action) := by
  intro kind name value hvalue
  have hkey : (r.after action).key kind name = r.key kind name := by
    simp only [key, scope, number_after]
  rw [hkey] at hvalue
  rcases h.get?_eq_some hvalue with hold | ⟨kind', name', hkey', hown⟩
  · exact ownValue_after (hs hold) action
  · obtain ⟨-, rfl, rfl⟩ := key_inj hkey'
    exact ownValue_after hown action

/-! ## 2. Registering -/

/-- A name that is taken: nothing happens. -/
theorem run_register_of_taken {r : Registry} {c : Contract}
    (h : (r.catalogue.find? c.name).isSome) (j : Journal) :
    (r.register c).run j = (.error (.duplicateName c.name), j) := by
  unfold register
  rw [if_pos h]
  rfl

/-- A new name: both its keys are cleared, and the contract comes in. -/
theorem run_register_of_new {r : Registry} {c : Contract}
    (h : ¬(r.catalogue.find? c.name).isSome) (j : Journal) :
    (r.register c).run j = (.ok { r with catalogue := r.catalogue.insert c },
      ⟨(j.store.delete (r.key .fields c.name)).delete (r.key .rules c.name),
        j.calls ++ [.delete (r.key .fields c.name) (j.store.holds (r.key .fields c.name))]
          ++ [.delete (r.key .rules c.name)
            ((j.store.delete (r.key .fields c.name)).holds (r.key .rules c.name))]⟩) := by
  unfold register
  rw [if_neg h]
  rfl

/-- What a store is without the answers of a registry about one name. -/
structure Clears (r : Registry) (name : String) (s t : Store) : Prop where
  kind_eq : t.kind = s.kind
  gone : ∀ kind, t.get? (r.key kind name) = none
  kept : ∀ {key : StoreKey}, (∀ kind, key ≠ r.key kind name) → t.get? key = s.get? key

theorem clears_delete (r : Registry) (name : String) (s : Store) :
    r.Clears name s ((s.delete (r.key .fields name)).delete (r.key .rules name)) := by
  refine ⟨rfl, fun kind => ?_, fun {key} hne => ?_⟩
  · rw [Store.get?_delete, Store.get?_delete]
    cases kind <;> simp
  · rw [Store.get?_delete, Store.get?_delete, if_neg (hne .rules), if_neg (hne .fields)]

section

variable {r : Registry} {name : String} {s t : Store}

/-- The answers about other names stay. -/
theorem Clears.get?_of_name_ne (h : r.Clears name s t) {other : String} (hne : other ≠ name)
    (kind : AnswerKind) : t.get? (r.key kind other) = s.get? (r.key kind other) :=
  h.kept fun _ heq => hne (key_inj heq).2.2

/-- The answers of other registries stay, those about the same name included. -/
theorem Clears.get?_of_number_ne (h : r.Clears name s t) {q : Registry}
    (hne : q.number ≠ r.number) (kind : AnswerKind) (other : String) :
    t.get? (q.key kind other) = s.get? (q.key kind other) :=
  h.kept fun _ heq => hne (key_inj heq).1

/-- What stands outside every scope stays. -/
theorem Clears.get?_plain (h : r.Clears name s t) (kind : AnswerKind) (other : String) :
    t.get? (.plain kind other) = s.get? (.plain kind other) :=
  h.kept fun kind' heq => r.key_ne_plain kind' kind name other heq.symm

end

/-! ## 3. Every contract at once -/

theorem run_gather_cons (r : Registry) (name : String) (rest : List String) (j : Journal) :
    (r.gather (name :: rest)).run j
      = ((name, ((r.rules name).run.run j).1)
            :: ((r.gather rest).run ((r.rules name).run.run j).2).1,
          ((r.gather rest).run ((r.rules name).run.run j).2).2) := rfl

theorem records_gather (r : Registry) : ∀ (order : List String) (j : Journal),
    r.Records j.store ((r.gather order).run j).2.store
  | [], _ => .refl
  | name :: rest, j => by
    rw [run_gather_cons]
    exact ((r.answers_rules name).records j).trans (records_gather r rest _)

/-- What has been written down on the way does not change what the later ones are answered. -/
theorem gather_eq_ownRules (r : Registry) : ∀ (order : List String) (j : Journal),
    (∀ name ∈ order, j.store.Truthful r .rules name) →
      ((r.gather order).run j).1 = r.ownRules order
  | [], _, _ => rfl
  | name :: rest, j, h => by
    have hfirst := (r.answers_rules name).eq_plain j (h name List.mem_cons_self)
    have hrest : ∀ other ∈ rest,
        ((r.rules name).run.run j).2.store.Truthful r .rules other := fun other hother =>
      ((r.answers_rules name).records j).truthful (h other (List.mem_cons_of_mem _ hother))
    rw [run_gather_cons, hfirst, gather_eq_ownRules r rest _ hrest]
    rfl

/-! ## 4. The laws of an action -/

/-- A query as an action: it records, and on a truthful store its answer is the plain one. -/
theorem run_query {α : Type} {r : Registry} {kind : AnswerKind} {name : String} {query : Query α}
    {plain : Except QueryFault α} (h : r.Answers kind name query plain)
    (f : Except QueryFault α → Answer) (j : Journal) :
    (j.store.Truthful r kind name →
        ((do return (f (← query.run), r) : StateM Journal (Answer × Registry)).run j).1.1
          = f plain) ∧
      r.Records j.store
        ((do return (f (← query.run), r) : StateM Journal (Answer × Registry)).run j).2.store :=
  ⟨fun htrue => congrArg f (h.eq_plain j htrue), h.records j⟩

/-- **The registry that comes of an action** does not depend on the store. -/
theorem after_perform (r : Registry) (action : Action) (j : Journal) :
    ((r.perform action).run j).1.2 = r.after action := by
  cases action with
  | register c =>
    by_cases h : (r.catalogue.find? c.name).isSome
    · have hrun := run_register_of_taken h j
      simp only [perform, after_register_of_taken h, StateT.run_bind, hrun]
      rfl
    · have hrun := run_register_of_new h j
      simp only [perform, after_register_of_new h, StateT.run_bind, hrun]
      rfl
  | _ => rfl

/-- **The answer of an action** is the plain one when the store is truthful about all that the
action asks for. -/
theorem answer_perform (r : Registry) (action : Action) (j : Journal)
    (h : ∀ topic ∈ r.topics action, j.store.Truthful r topic.1 topic.2) :
    ((r.perform action).run j).1.1 = r.plainAnswer action := by
  cases action with
  | register c =>
    by_cases hc : (r.catalogue.find? c.name).isSome
    · have hrun := run_register_of_taken hc j
      simp only [perform, plainAnswer, if_pos hc, StateT.run_bind, hrun]
      rfl
    · have hrun := run_register_of_new hc j
      simp only [perform, plainAnswer, if_neg hc, StateT.run_bind, hrun]
      rfl
  | contract name => rfl
  | names => rfl
  | fields name =>
    exact (run_query (r.answers_fields name) .fields j).1 (h (.fields, name) (by simp [topics]))
  | dataFields name =>
    exact (run_query (r.answers_dataFields name) .fields j).1
      (h (.fields, name) (by simp [topics]))
  | optionalRules name =>
    exact (run_query (r.answers_optionalRules name) .rules j).1
      (h (.rules, name) (by simp [topics]))
  | rules name =>
    exact (run_query (r.answers_rules name) .rules j).1 (h (.rules, name) (by simp [topics]))
  | rulesWithout name omission =>
    exact (run_query (r.answers_rulesWithout name omission) .rules j).1
      (h (.rules, name) (by simp [topics]))
  | flush => rfl
  | checkContracts => rfl
  | allRules =>
    have hgather := r.gather_eq_ownRules r.catalogue.names j fun name hname =>
      h (.rules, name) (List.mem_map_of_mem hname)
    exact congrArg (fun found => Answer.compiled (assemble found r.catalogue.names)) hgather
  | allRulesIn order =>
    have hgather := r.gather_eq_ownRules order j fun name hname =>
      h (.rules, name) (List.mem_map_of_mem hname)
    exact congrArg (fun found => Answer.compiled (assemble found r.catalogue.names)) hgather

/-- **All that an action can do to the store.** -/
theorem leaves_perform (r : Registry) (action : Action) (j : Journal) :
    r.Leaves j.store action ((r.perform action).run j).2.store := by
  cases action with
  | register c =>
    by_cases h : (r.catalogue.find? c.name).isSome
    · have hrun := run_register_of_taken h j
      simp only [perform, StateT.run_bind, hrun]
      exact .recorded (after_register_of_taken h) .refl
    · have hrun := run_register_of_new h j
      simp only [perform, StateT.run_bind, hrun]
      exact .registered (by simpa using h)
  | contract name => exact .recorded rfl .refl
  | names => exact .recorded rfl .refl
  | fields name => exact .recorded rfl (run_query (r.answers_fields name) .fields j).2
  | dataFields name => exact .recorded rfl (run_query (r.answers_dataFields name) .fields j).2
  | optionalRules name =>
    exact .recorded rfl (run_query (r.answers_optionalRules name) .rules j).2
  | rules name => exact .recorded rfl (run_query (r.answers_rules name) .rules j).2
  | rulesWithout name omission =>
    exact .recorded rfl (run_query (r.answers_rulesWithout name omission) .rules j).2
  | flush => exact .flushed
  | checkContracts => exact .recorded rfl .refl
  | allRules => exact .recorded rfl (r.records_gather _ j)
  | allRulesIn order => exact .recorded rfl (r.records_gather _ j)

end Registry

end FieldRules

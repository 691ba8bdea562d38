/-
# What a registry answers, and what it leaves in its store

Every query about a contract asks the store first and the contract only when the store has
nothing to say, so whether its answer is right hangs on what the store holds.  Two notions keep
the two apart:

* `Registry.own` is the answer of the contract itself, with no store in between, and
  `Store.Truthful` says of one key that a value which can be read there is that answer;
* `Registry.Records` is all that queries do to a store: own answers are written under their own
  keys, and nothing else happens.

`Registry.Answers` joins them into the law of a query: it records, and on a truthful store it
gives the contract's own answer.  Each query has it (`answers_fields` to `answers_rulesWithout`),
and it is proved once, for the query that all others are made of (`answers_answer`).  A store
stays truthful under what its registries record (`Registry.Records.truthful`), those of other
numbers included, because their keys are others (`Registry.key_inj`).
-/
import FieldRules.Proofs.Store.Keys

namespace FieldRules

variable {α β : Type}

/-! ## 1. Own answers -/

/-- The value that belongs under the key of an answer about the contract. -/
def Contract.value (c : Contract) : AnswerKind → Except UntypedProperty StoredValue
  | .fields => .ok (.fields c.fields)
  | .rules => c.ruleTable.map .rules

namespace Registry

/-- What the contract of a name says by itself. -/
def own (r : Registry) (compute : Contract → Except UntypedProperty α) (name : String) :
    Except QueryFault α :=
  (r.contract name).bind fun c => (compute c).mapError QueryFault.untyped

/-- The value that belongs under the key of an answer. -/
def ownValue (r : Registry) (kind : AnswerKind) (name : String) : Except QueryFault StoredValue :=
  r.own (fun c => c.value kind) name

theorem contract_eq_ok_iff {r : Registry} {name : String} {c : Contract} :
    r.contract name = .ok c ↔ r.catalogue.find? name = some c := by
  unfold contract
  cases r.catalogue.find? name <;> simp

theorem own_of_find? {r : Registry} {name : String} {c : Contract}
    (h : r.catalogue.find? name = some c) (compute : Contract → Except UntypedProperty α) :
    r.own compute name = (compute c).mapError QueryFault.untyped := by
  unfold own
  rw [contract_eq_ok_iff.mpr h]
  rfl

/-- Only a name that is there has an own answer. -/
theorem find?_of_own_eq_ok {r : Registry} {compute : Contract → Except UntypedProperty α}
    {name : String} {value : α} (h : r.own compute name = .ok value) :
    ∃ c, r.catalogue.find? name = some c := by
  cases hc : r.contract name with
  | error e =>
    rw [own, hc] at h
    cases h
  | ok c => exact ⟨c, contract_eq_ok_iff.mp hc⟩

/-- Only the contract of the name counts. -/
theorem own_congr {r q : Registry} {name : String}
    (h : r.catalogue.find? name = q.catalogue.find? name)
    (compute : Contract → Except UntypedProperty α) : r.own compute name = q.own compute name := by
  unfold own contract
  rw [h]

theorem own_map (r : Registry) (compute : Contract → Except UntypedProperty α) (f : α → β)
    (name : String) : r.own (fun c => (compute c).map f) name = (r.own compute name).map f := by
  unfold own
  cases r.contract name with
  | error e => rfl
  | ok c =>
    simp only [Except.bind]
    cases compute c <;> rfl

end Registry

/-! ## 2. Truthful stores -/

/-- A value that can be read as an answer of the registry about `name` is that answer.  A value of
the other kind is as good as none. -/
def Store.Truthful (s : Store) (r : Registry) (kind : AnswerKind) (name : String) : Prop :=
  ∀ value, s.get? (r.key kind name) = some value → value.kind = kind →
    r.ownValue kind name = .ok value

namespace Store.Truthful

variable {s t : Store} {r q : Registry} {kind : AnswerKind} {name : String}

/-- A store that holds nothing new stays truthful. -/
theorem of_subset (h : s.Truthful r kind name)
    (hsub : ∀ value, t.get? (r.key kind name) = some value →
      s.get? (r.key kind name) = some value) : t.Truthful r kind name :=
  fun value hvalue => h value (hsub value hvalue)

/-- Only the keys and the contract of the name count. -/
theorem congr_registry (h : s.Truthful r kind name) (hnumber : r.number = q.number)
    (hfind : r.catalogue.find? name = q.catalogue.find? name) : s.Truthful q kind name := by
  have hkey : q.key kind name = r.key kind name := by
    simp only [Registry.key, Registry.scope, hnumber]
  intro value hvalue hkind
  rw [hkey] at hvalue
  rw [Registry.ownValue, ← Registry.own_congr hfind]
  exact h value hvalue hkind

theorem delete (h : s.Truthful r kind name) (key : StoreKey) :
    (s.delete key).Truthful r kind name := by
  refine h.of_subset fun value hvalue => ?_
  rw [get?_delete] at hvalue
  split at hvalue
  · cases hvalue
  · exact hvalue

theorem clear (s : Store) (r : Registry) (kind : AnswerKind) (name : String) :
    s.clear.Truthful r kind name := by
  intro value hvalue
  rw [get?_clear] at hvalue
  cases hvalue

/-- After its key has been deleted, nothing is said about an answer. -/
theorem of_delete (s : Store) (r : Registry) (kind : AnswerKind) (name : String) :
    (s.delete (r.key kind name)).Truthful r kind name := by
  intro value hvalue
  rw [get?_delete, if_pos rfl] at hvalue
  cases hvalue

/-- A value may be written anywhere but as a false answer under the key itself. -/
theorem set (h : s.Truthful r kind name) {key : StoreKey} {new : StoredValue}
    (hnew : key = r.key kind name → new.kind = kind → r.ownValue kind name = .ok new) :
    (s.set key new).Truthful r kind name := by
  intro value hvalue hkind
  rw [get?_set] at hvalue
  split at hvalue
  · rename_i hcond
    cases hvalue
    exact hnew hcond.1.symm hkind
  · exact h value hvalue hkind

end Store.Truthful

/-- Whatever stands under a key of the registry is the answer that belongs there: under no key there
is a value of the wrong kind, and under the keys of an unknown name there is none at all. -/
def Store.Faithful (s : Store) (r : Registry) : Prop :=
  ∀ ⦃kind name value⦄, s.get? (r.key kind name) = some value → r.ownValue kind name = .ok value

namespace Store.Faithful

variable {s : Store} {r : Registry}

theorem truthful (h : s.Faithful r) (kind : AnswerKind) (name : String) :
    s.Truthful r kind name := fun _ hvalue _ => h hvalue

theorem new (storeKind : StoreKind) (r : Registry) : (Store.new storeKind).Faithful r := by
  intro kind name value hvalue
  rw [get?_new] at hvalue
  cases hvalue

/-- Nothing stands under the keys of an unknown name. -/
theorem get?_eq_none (h : s.Faithful r) {name : String} (hname : r.catalogue.find? name = none)
    (kind : AnswerKind) : s.get? (r.key kind name) = none := by
  cases hget : s.get? (r.key kind name) with
  | none => rfl
  | some value =>
    obtain ⟨c, hc⟩ := Registry.find?_of_own_eq_ok (h hget)
    rw [hname] at hc
    cases hc

end Store.Faithful

/-- The calls with which a store is asked for an answer: a value is fetched only if it is there. -/
def Store.lookUp (s : Store) (key : StoreKey) : List Call :=
  .has key (s.has key)
    :: if s.has key then [.get key ((s.get? key).map StoredValue.kind)] else []

/-! ## 3. What queries leave in a store -/

namespace Registry

/-- The stores that a registry's queries make of a store: own answers written under their keys. -/
inductive Records (r : Registry) (s : Store) : Store → Prop
  | refl : Records r s s
  | write {t : Store} {kind : AnswerKind} {name : String} {value : StoredValue} :
      Records r s t → r.ownValue kind name = .ok value →
        Records r s (t.set (r.key kind name) value)

namespace Records

variable {r q : Registry} {s t u : Store}

theorem trans (hst : r.Records s t) (htu : r.Records t u) : r.Records s u := by
  induction htu with
  | refl => exact hst
  | write _ hvalue ih => exact ih.write hvalue

/-- **All that recording can bring in**: what was there before, or an own answer under its key. -/
theorem get?_eq_some (h : r.Records s t) {key : StoreKey} {value : StoredValue}
    (hget : t.get? key = some value) : s.get? key = some value ∨
      ∃ kind name, key = r.key kind name ∧ r.ownValue kind name = .ok value := by
  induction h with
  | refl => exact .inl hget
  | @write t kind name new hrec hnew ih =>
    rw [Store.get?_set] at hget
    split at hget
    · rename_i hcond
      cases hget
      exact .inr ⟨kind, name, hcond.1, hnew⟩
    · exact ih hget

/-- Own answers leave a store truthful about the registry itself. -/
theorem truthful (h : r.Records s t) {kind : AnswerKind} {name : String}
    (hs : s.Truthful r kind name) : t.Truthful r kind name := by
  intro value hvalue hkind
  rcases h.get?_eq_some hvalue with hold | ⟨kind', name', hkey, hown⟩
  · exact hs value hold hkind
  · obtain ⟨-, rfl, rfl⟩ := key_inj hkey
    exact hown

theorem faithful (h : r.Records s t) (hs : s.Faithful r) : t.Faithful r := by
  intro kind name value hvalue
  rcases h.get?_eq_some hvalue with hold | ⟨kind', name', hkey, hown⟩
  · exact hs hold
  · obtain ⟨-, rfl, rfl⟩ := key_inj hkey
    exact hown

/-- Own answers of one registry say nothing about a registry of another number. -/
theorem truthful_of_number_ne (h : q.Records s t) (hne : r.number ≠ q.number)
    {kind : AnswerKind} {name : String} (hs : s.Truthful r kind name) :
    t.Truthful r kind name := by
  refine hs.of_subset fun value hvalue => ?_
  rcases h.get?_eq_some hvalue with hold | ⟨kind', name', hkey, -⟩
  · exact hold
  · exact absurd (key_inj hkey).1 hne

end Records

/-! ## 4. The query that all others are made of -/

theorem run_storedAnswer? (key : StoreKey) (read : StoredValue → Option α) (j : Journal) :
    (storedAnswer? key read).run j
      = ((j.store.get? key).bind read, ⟨j.store, j.calls ++ j.store.lookUp key⟩) := by
  cases h : j.store.has key with
  | false =>
    rw [Store.get?_eq_none_of_not_has h]
    simp [storedAnswer?, StateT.run, bind, StateT.bind, pure, StateT.pure, Journal.has,
      Store.lookUp, h]
  | true =>
    simp [storedAnswer?, StateT.run, bind, StateT.bind, pure, StateT.pure, Journal.has,
      Journal.get?, Store.lookUp, h]

/-- Work on the store that begins a query is done first. -/
theorem run_bind_lift (act : StateM Journal α) (rest : α → Query β) (j : Journal) :
    (do let value ← act; rest value : Query β).run.run j
      = (rest (act.run j).1).run.run (act.run j).2 := rfl

/-- Asking for the contract and computing from it is one step: the contract's own answer. -/
theorem bind_own (r : Registry) (compute : Contract → Except UntypedProperty α) (name : String)
    (rest : α → Query β) :
    (do let c ← r.contract name
        let value ← (compute c).mapError QueryFault.untyped
        rest value : Query β) = (do let value ← r.own compute name; rest value : Query β) := by
  unfold own
  cases r.contract name with
  | error e => rfl
  | ok c => rfl

section Answer

variable {r : Registry} {kind : AnswerKind} {read : StoredValue → Option α}
  (write : α → StoredValue) (compute : Contract → Except UntypedProperty α) {name : String}
  {j : Journal}

/-- The store is asked first, which changes nothing in it; the rest is done without it. -/
theorem run_answer (r : Registry) (kind : AnswerKind) (read : StoredValue → Option α)
    (write : α → StoredValue) (compute : Contract → Except UntypedProperty α) (name : String)
    (j : Journal) : (r.answer kind read write compute name).run.run j
      = (match (j.store.get? (r.key kind name)).bind read with
          | some found => return found
          | none => do
            let value ← r.own compute name
            Journal.set (r.key kind name) (write value)
            return value : Query α).run.run
          ⟨j.store, j.calls ++ j.store.lookUp (r.key kind name)⟩ := by
  unfold answer
  rw [run_bind_lift, run_storedAnswer?]
  cases (j.store.get? (r.key kind name)).bind read with
  | some found => rfl
  | none =>
    exact congrArg (fun q : Query α => q.run.run ⟨j.store, _⟩) (bind_own r compute name _)

/-- A hit gives what was found and leaves the store alone. -/
theorem run_answer_of_hit {found : α}
    (h : (j.store.get? (r.key kind name)).bind read = some found) :
    (r.answer kind read write compute name).run.run j
      = (.ok found, ⟨j.store, j.calls ++ j.store.lookUp (r.key kind name)⟩) := by
  rw [run_answer, h]
  rfl

/-- A miss gives the contract's own answer and writes it down if there is one. -/
theorem run_answer_of_miss (h : (j.store.get? (r.key kind name)).bind read = none) :
    (r.answer kind read write compute name).run.run j
      = (r.own compute name,
          match r.own compute name with
          | .ok value => ⟨j.store.set (r.key kind name) (write value),
              j.calls ++ j.store.lookUp (r.key kind name) ++ [.set (r.key kind name)]⟩
          | .error _ => ⟨j.store, j.calls ++ j.store.lookUp (r.key kind name)⟩) := by
  rw [run_answer, h]
  cases r.own compute name <;> rfl

end Answer

/-! ## 5. The law of a query -/

/-- A query about a contract that asks for the answer of a kind.  It leaves own answers and no
more; and it gives the contract's own answer when the store is truthful about what is asked. -/
structure Answers (r : Registry) (kind : AnswerKind) (name : String) (query : Query α)
    (plain : Except QueryFault α) : Prop where
  records : ∀ j, r.Records j.store (query.run.run j).2.store
  eq_plain : ∀ j, j.store.Truthful r kind name → (query.run.run j).1 = plain

/-- **The common query has the law.**  What may be read under its key are the values of its kind,
and those are what it writes. -/
theorem answers_answer (r : Registry) {kind : AnswerKind} {read : StoredValue → Option α}
    {write : α → StoredValue} {compute : Contract → Except UntypedProperty α} (name : String)
    (hread : ∀ value found, read value = some found → value = write found)
    (hkind : ∀ found, (write found).kind = kind)
    (hwrite : ∀ found other, write found = write other → found = other)
    (hvalue : ∀ c : Contract, c.value kind = (compute c).map write) :
    r.Answers kind name (r.answer kind read write compute name) (r.own compute name) := by
  have hown : r.ownValue kind name = (r.own compute name).map write := by
    rw [ownValue, funext hvalue, own_map]
  constructor
  · intro j
    cases h : (j.store.get? (r.key kind name)).bind read with
    | some found =>
      rw [run_answer_of_hit write compute h]
      exact .refl
    | none =>
      rw [run_answer_of_miss write compute h]
      cases hval : r.own compute name with
      | error e => exact .refl
      | ok value =>
        rw [hval] at hown
        exact Records.refl.write hown
  · intro j htrue
    cases h : (j.store.get? (r.key kind name)).bind read with
    | some found =>
      obtain ⟨value, hget, hfound⟩ := Option.bind_eq_some_iff.mp h
      have hvw : value = write found := hread value found hfound
      have hsaid := htrue value hget (by rw [hvw, hkind])
      rw [hown, hvw] at hsaid
      rw [run_answer_of_hit write compute h]
      cases hval : r.own compute name with
      | error e =>
        rw [hval] at hsaid
        cases hsaid
      | ok own =>
        rw [hval] at hsaid
        rw [hwrite found own (Except.ok.inj hsaid).symm]
    | none => rw [run_answer_of_miss write compute h]

/-! ## 6. The queries -/

variable {r : Registry} {kind : AnswerKind} {name : String}

/-- What is worked out from an answer alone makes no call of its own. -/
theorem run_map (query : Query α) (f : α → β) (j : Journal) :
    (do return f (← query) : Query β).run.run j
      = (((query.run.run j).1).map f, (query.run.run j).2) := by
  simp only [bind_pure_comp, ExceptT.run_map, StateT.run_map]
  rfl

/-- What is worked out from an answer alone has the law. -/
theorem Answers.map {query : Query α} {plain : Except QueryFault α}
    (h : r.Answers kind name query plain) (f : α → β) :
    r.Answers kind name (do return f (← query)) (plain.map f) := by
  constructor
  · intro j
    rw [run_map]
    exact h.records j
  · intro j htrue
    rw [run_map]
    exact congrArg (Except.map f) (h.eq_plain j htrue)

/-- So has what is worked out from an answer and the contract, which is then looked up first. -/
theorem Answers.mapContract {query : Query α} {compute : Contract → Except UntypedProperty α}
    (h : r.Answers kind name query (r.own compute name)) (f : Contract → α → β) :
    r.Answers kind name (do let c ← r.contract name; return f c (← query))
      (r.own (fun c => (compute c).map (f c)) name) := by
  cases hc : r.contract name with
  | error e =>
    have hplain : r.own (fun c => (compute c).map (f c)) name = .error e := by
      unfold own
      rw [hc]
      rfl
    rw [hplain]
    exact ⟨fun _ => .refl, fun _ _ => rfl⟩
  | ok c =>
    have hplain : r.own (fun c => (compute c).map (f c)) name
        = (r.own compute name).map (f c) := by
      unfold own
      rw [hc]
      simp only [Except.bind]
      cases compute c <;> rfl
    rw [hplain]
    exact h.map (f c)

theorem answers_fields (r : Registry) (name : String) :
    r.Answers .fields name (r.fields name) (r.own (fun c => .ok c.fields) name) := by
  refine r.answers_answer name ?_ (fun _ => rfl) ?_ (fun _ => rfl)
  · intro value found h
    cases value with
    | fields names => exact congrArg StoredValue.fields (Option.some.inj h)
    | rules table => cases h
  · intro found other h
    exact StoredValue.fields.inj h

theorem answers_dataFields (r : Registry) (name : String) :
    r.Answers .fields name (r.dataFields name) (r.own (fun c => .ok c.dataFields) name) :=
  (r.answers_fields name).mapContract fun c => Contract.dropId c.idField

theorem answers_ruleTable (r : Registry) (name : String) :
    r.Answers .rules name (r.ruleTable name) (r.own Contract.ruleTable name) := by
  refine r.answers_answer name ?_ (fun _ => rfl) ?_ (fun _ => rfl)
  · intro value found h
    cases value with
    | fields names => cases h
    | rules table => exact congrArg StoredValue.rules (Option.some.inj h)
  · intro found other h
    exact StoredValue.rules.inj h

theorem answers_optionalRules (r : Registry) (name : String) :
    r.Answers .rules name (r.optionalRules name) (r.own Contract.optionalRules name) := by
  have h := (r.answers_ruleTable name).map RuleTable.texts
  rw [← own_map] at h
  exact h

theorem answers_rules (r : Registry) (name : String) :
    r.Answers .rules name (r.rules name) (r.own Contract.rules name) :=
  (r.answers_ruleTable name).mapContract fun c table => (table.markRequired c.required).texts

theorem answers_rulesWithout (r : Registry) (name : String) (omission : Omission) :
    r.Answers .rules name (r.rulesWithout name omission)
      (r.own (fun c => c.rulesWithout omission) name) :=
  (r.answers_ruleTable name).mapContract fun c table =>
    RuleTable.texts ((table.markRequired c.required).without omission)

end Registry

end FieldRules

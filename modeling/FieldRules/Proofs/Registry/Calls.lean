/-
# The calls that a registry makes on its store

What is asked of a registry can be read off the calls it makes on its store.  On a store that
keeps what it is given, and is faithful to the registry, those are thrifty (`Store.Thrifty`):
a value is fetched directly after the store has said that it is there, it is written only where
there is none, and there is nothing to delete when a contract comes in.  Two facts about a log of
such calls follow, whoever made them: between two writes under one key everything is taken out of
the store (`Store.Thrifty.clear_mem`), and a value is fetched only when it is known to be there
(`Store.Thrifty.has_before_get`).

A query about a contract makes at most two calls (`Registry.Inquires`).  It writes only under its
own key, and only if it has an answer to give; a fault is never written.
-/
import FieldRules.Proofs.OrderedMap.Traversal
import FieldRules.Proofs.Registry.Gathering
import FieldRules.Proofs.Registry.Unknown

namespace FieldRules

/-! ## 1. Thrifty calls -/

namespace Store

theorem has_eq_isSome {s : Store} (h : s.kind = .memory) (key : StoreKey) :
    s.has key = (s.get? key).isSome := by
  simp only [has, get?, h, OrderedMap.contains_eq_isSome_get?]

theorem holds_eq_isSome {s : Store} (h : s.kind = .memory) (key : StoreKey) :
    s.holds key = (s.get? key).isSome := by
  simp only [holds, held?, get?, h]

/-- A call that does no work twice, with the last call before it, and the store it leaves.  No value
is written over or deleted, and none is fetched that the store has not just said to have;
`flushing` says whether the store may be cleared. -/
inductive Admits (flushing : Prop) (last : Option Call) (s : Store) : Call → Store → Prop
  | has {key : StoreKey} : Admits flushing last s (.has key (s.has key)) s
  | get {key : StoreKey} {reply : Option AnswerKind} : last = some (.has key true) →
      Admits flushing last s (.get key reply) s
  | set {key : StoreKey} {value : StoredValue} : s.get? key = none →
      Admits flushing last s (.set key) (s.set key value)
  | delete {key : StoreKey} : s.get? key = none →
      Admits flushing last s (.delete key false) (s.delete key)
  | clear : flushing → Admits flushing last s .clear s.clear

/-- Thrifty calls, one after the other. -/
inductive Thrifty (flushing : Prop) : Option Call → Store → List Call → Store → Prop
  | nil {last : Option Call} {s : Store} : Thrifty flushing last s [] s
  | cons {last : Option Call} {s t u : Store} {call : Call} {calls : List Call} :
      s.Admits flushing last call t → Thrifty flushing (some call) t calls u →
      Thrifty flushing last s (call :: calls) u

variable {flushing allowed : Prop} {last : Option Call} {s t u : Store} {key : StoreKey}
  {call : Call} {calls : List Call}

/-! ### One call -/

/-- A store may always be asked whether it has a value. -/
theorem Admits.has_of_eq {reply : Bool} (h : s.has key = reply) :
    s.Admits flushing last (.has key reply) s := h ▸ .has

/-- What is allowed after no call is allowed after every call. -/
theorem Admits.of_none (h : s.Admits flushing none call t) (last : Option Call) :
    s.Admits flushing last call t := by
  cases h with
  | has => exact .has
  | get hlast => cases hlast
  | set hnone => exact .set hnone
  | delete hnone => exact .delete hnone
  | clear hflush => exact .clear hflush

theorem Admits.mono (h : s.Admits flushing last call t) (hmono : flushing → allowed) :
    s.Admits allowed last call t := by
  cases h with
  | has => exact .has
  | get hlast => exact .get hlast
  | set hnone => exact .set hnone
  | delete hnone => exact .delete hnone
  | clear hflush => exact .clear (hmono hflush)

theorem Admits.kind_eq (h : s.Admits flushing last call t) : t.kind = s.kind := by
  cases h with
  | set => exact kind_set s _ _
  | _ => rfl

/-- What is in a store stays there in every call but a clearing. -/
theorem Admits.get?_ne_none (h : s.Admits flushing last call t) (hcall : call ≠ .clear)
    (hthere : s.get? key ≠ none) : t.get? key ≠ none := by
  cases h with
  | has => exact hthere
  | get => exact hthere
  | set =>
    rw [get?_set]
    split
    · exact Option.some_ne_none _
    · exact hthere
  | @delete other hnone =>
    -- what is deleted was not there
    have hne : key ≠ other := fun heq => hthere (heq ▸ hnone)
    rw [get?_delete, if_neg hne]
    exact hthere
  | clear => exact absurd rfl hcall

/-! ### Logs -/

namespace Thrifty

theorem of_none (h : Thrifty flushing none s calls t) (last : Option Call) :
    Thrifty flushing last s calls t := by
  cases h with
  | nil => exact .nil
  | cons hcall hrest => exact .cons (hcall.of_none last) hrest

theorem mono (h : Thrifty flushing last s calls t) (hmono : flushing → allowed) :
    Thrifty allowed last s calls t := by
  induction h with
  | nil => exact .nil
  | cons hcall _ ih => exact .cons (hcall.mono hmono) ih

theorem append {first second : List Call} (h : Thrifty flushing last s first t)
    (h' : Thrifty flushing none t second u) : Thrifty flushing last s (first ++ second) u := by
  induction h with
  | nil => exact h'.of_none _
  | cons hcall _ ih => exact .cons hcall (ih h')

theorem kind_eq (h : Thrifty flushing last s calls t) : t.kind = s.kind := by
  induction h with
  | nil => rfl
  | cons hcall _ ih => exact ih.trans hcall.kind_eq

theorem flushing_of_clear_mem (h : Thrifty flushing last s calls t) (hmem : .clear ∈ calls) :
    flushing := by
  induction h with
  | nil => cases hmem
  | cons hcall _ ih =>
    rcases List.mem_cons.mp hmem with rfl | hmem
    · cases hcall with
      | clear hflush => exact hflush
    · exact ih hmem

/-- What is in a store stays there until the store is cleared. -/
theorem get?_ne_none (h : Thrifty flushing last s calls t) (hclear : .clear ∉ calls)
    (hthere : s.get? key ≠ none) : t.get? key ≠ none := by
  induction h with
  | nil => exact hthere
  | cons hcall _ ih =>
    obtain ⟨hfirst, hrest⟩ := List.ne_and_not_mem_of_not_mem_cons hclear
    exact ih hrest (hcall.get?_ne_none (Ne.symm hfirst) hthere)

/-- Each call of a log is thrifty after the ones before it. -/
theorem split {before after : List Call}
    (h : Thrifty flushing last s (before ++ call :: after) t) :
    ∃ u v, Thrifty flushing last s before u ∧
      u.Admits flushing (before.getLast?.or last) call v ∧
      Thrifty flushing (some call) v after t := by
  induction before generalizing last s with
  | nil =>
    cases h with
    | cons hcall hrest => exact ⟨s, _, .nil, hcall, hrest⟩
  | cons first before ih =>
    cases h with
    | cons hfirst hrest =>
      obtain ⟨u, v, hbefore, hcall, hafter⟩ := ih hrest
      refine ⟨u, v, .cons hfirst hbefore, ?_, hafter⟩
      rw [List.getLast?_cons]
      cases hlast : before.getLast? <;> simpa [hlast] using hcall

/-- **Nothing is written twice**: between two writes under one key the store is cleared. -/
theorem clear_mem (hkind : s.kind = .memory) {before between after : List Call}
    (h : Thrifty flushing last s (before ++ .set key :: (between ++ .set key :: after)) t) :
    .clear ∈ between := by
  by_contra hclear
  obtain ⟨u, v, hbefore, hcall, hrest⟩ := h.split
  obtain ⟨u', v', hbetween, hcall', -⟩ := hrest.split
  have hthere : v.get? key ≠ none := by
    cases hcall with
    | set =>
      rw [get?_set, if_pos ⟨rfl, hbefore.kind_eq.trans hkind⟩]
      exact Option.some_ne_none _
  cases hcall' with
  | set hnone => exact hbetween.get?_ne_none hclear hthere hnone

/-- **Nothing is fetched in vain**: the store has just said that the value is there. -/
theorem has_before_get {before after : List Call} {reply : Option AnswerKind}
    (h : Thrifty flushing none s (before ++ .get key reply :: after) t) :
    ∃ earlier, before = earlier ++ [.has key true] := by
  obtain ⟨u, v, -, hcall, -⟩ := h.split
  cases hcall with
  | get hlast =>
    rw [Option.or_none] at hlast
    exact List.getLast?_eq_some_iff.mp hlast

end Thrifty

end Store

/-! ## 2. The calls of a query -/

/-- Whether a call may change the store. -/
def Call.changes : Call → Bool
  | has _ _ => false
  | get _ _ => false
  | _ => true

namespace Registry

variable {α β : Type} {r : Registry} {kind : AnswerKind} {name : String}

/-- What a query that asks for an answer of a kind does on a store: the fault in which it ends, if
it does, its calls, and the store it leaves. -/
inductive Inquires (r : Registry) (kind : AnswerKind) (name : String) (s : Store) :
    Option QueryFault → List Call → Store → Prop
  | unasked {fault : QueryFault} : Inquires r kind name s (some fault) [] s
  | found {reply : Option AnswerKind} : s.has (r.key kind name) = true →
      Inquires r kind name s none [.has (r.key kind name) true, .get (r.key kind name) reply] s
  | missed {fault : QueryFault} : s.has (r.key kind name) = false →
      Inquires r kind name s (some fault) [.has (r.key kind name) false] s
  | filled {value : StoredValue} : s.has (r.key kind name) = false →
      Inquires r kind name s none [.has (r.key kind name) false, .set (r.key kind name)]
        (s.set (r.key kind name) value)

namespace Inquires

variable {s t : Store} {fault : Option QueryFault} {calls : List Call}

theorem thrifty (h : r.Inquires kind name s fault calls t) :
    s.Thrifty False none calls t := by
  cases h with
  | unasked => exact .nil
  | found hhas => exact .cons (.has_of_eq hhas) (.cons (.get rfl) .nil)
  | missed hhas => exact .cons (.has_of_eq hhas) .nil
  | filled hhas =>
    have hnone := Store.get?_eq_none_of_not_has hhas
    exact .cons (.has_of_eq hhas) (.cons (.set hnone) .nil)

/-- **A query changes the store by a write under its own key**, and only if it ends without a
fault. -/
theorem eq_set_of_changes (h : r.Inquires kind name s fault calls t) {call : Call}
    (hmem : call ∈ calls) (hchanges : call.changes) :
    call = .set (r.key kind name) ∧ fault = none := by
  cases h with
  | unasked => cases hmem
  | found => rcases List.mem_pair.mp hmem with rfl | rfl <;> cases hchanges
  | missed =>
    rw [List.mem_singleton.mp hmem] at hchanges
    cases hchanges
  | filled =>
    rcases List.mem_pair.mp hmem with rfl | rfl
    · cases hchanges
    · exact ⟨rfl, rfl⟩

/-- A fault leaves the store as it was. -/
theorem store_eq_of_fault {e : QueryFault} (h : r.Inquires kind name s (some e) calls t) :
    t = s := by
  cases h <;> rfl

/-- A query that ends without a fault leaves its answer in the store, for the next one to find. -/
theorem get?_ne_none (h : r.Inquires kind name s none calls t) (hkind : s.kind = .memory) :
    t.get? (r.key kind name) ≠ none := by
  cases h with
  | found hhas =>
    rw [Store.has_eq_isSome hkind] at hhas
    exact Option.isSome_iff_ne_none.mp hhas
  | filled =>
    rw [Store.get?_set, if_pos ⟨rfl, hkind⟩]
    exact Option.some_ne_none _

/-- Every other key has what it had. -/
theorem get?_of_ne (h : r.Inquires kind name s fault calls t) {key : StoreKey}
    (hne : key ≠ r.key kind name) : t.get? key = s.get? key := by
  cases h with
  | filled => rw [Store.get?_set, if_neg fun hcond => hne hcond.1]
  | _ => rfl

end Inquires

/-- The law of the calls that a query makes. -/
def Consults (r : Registry) (kind : AnswerKind) (name : String) (query : Query α) : Prop :=
  ∀ j : Journal, j.store.kind = .memory → j.store.Faithful r → ∃ calls t,
    (query.run.run j).2 = ⟨t, j.calls ++ calls⟩ ∧
      r.Inquires kind name j.store (fault? (query.run.run j).1) calls t

/-- **The common query has the law.**  On a faithful store, what is there can be read. -/
theorem consults_answer (r : Registry) {kind : AnswerKind} {read : StoredValue → Option α}
    {write : α → StoredValue} {compute : Contract → Except UntypedProperty α} (name : String)
    (hread : ∀ found, read (write found) = some found)
    (hvalue : ∀ c : Contract, c.value kind = (compute c).map write) :
    r.Consults kind name (r.answer kind read write compute name) := by
  intro j hkind hfaithful
  cases hhas : j.store.has (r.key kind name) with
  | true =>
    obtain ⟨value, hget⟩ : ∃ value, j.store.get? (r.key kind name) = some value := by
      rw [Store.has_eq_isSome hkind] at hhas
      exact Option.isSome_iff_exists.mp hhas
    have hown := hfaithful hget
    rw [ownValue, funext hvalue, own_map] at hown
    cases hval : r.own compute name with
    | error e =>
      rw [hval] at hown
      cases hown
    | ok found =>
      rw [hval] at hown
      have hhit : (j.store.get? (r.key kind name)).bind read = some found := by
        rw [hget, ← Except.ok.inj hown]
        exact hread found
      rw [run_answer_of_hit write compute hhit, Store.lookUp, hhas]
      exact ⟨_, _, rfl, .found hhas⟩
  | false =>
    have hmiss : (j.store.get? (r.key kind name)).bind read = none := by
      rw [Store.get?_eq_none_of_not_has hhas]
      rfl
    rw [run_answer_of_miss write compute hmiss, Store.lookUp, hhas]
    cases r.own compute name with
    | error e => exact ⟨_, _, rfl, .missed hhas⟩
    | ok value =>
      have hcalls := List.append_assoc j.calls [.has (r.key kind name) false]
        [.set (r.key kind name)]
      exact ⟨_, _, congrArg (Journal.mk _) hcalls, .filled hhas⟩

theorem Consults.map {query : Query α} (h : r.Consults kind name query) (f : α → β) :
    r.Consults kind name (do return f (← query)) := by
  intro j hkind hfaithful
  rw [run_map, fault?_map]
  exact h j hkind hfaithful

theorem Consults.mapContract {query : Query α} (h : r.Consults kind name query)
    (f : Contract → α → β) :
    r.Consults kind name (do let c ← r.contract name; return f c (← query)) := by
  cases hc : r.contract name with
  | error e => exact fun j _ _ => ⟨[], j.store, by rw [List.append_nil]; rfl, .unasked⟩
  | ok c => exact h.map (f c)

theorem consults_fields (r : Registry) (name : String) :
    r.Consults .fields name (r.fields name) :=
  r.consults_answer name (fun _ => rfl) fun _ => rfl

theorem consults_dataFields (r : Registry) (name : String) :
    r.Consults .fields name (r.dataFields name) :=
  (r.consults_fields name).mapContract fun c => Contract.dropId c.idField

theorem consults_ruleTable (r : Registry) (name : String) :
    r.Consults .rules name (r.ruleTable name) :=
  r.consults_answer name (fun _ => rfl) fun _ => rfl

theorem consults_optionalRules (r : Registry) (name : String) :
    r.Consults .rules name (r.optionalRules name) :=
  (r.consults_ruleTable name).map RuleTable.texts

theorem consults_rules (r : Registry) (name : String) :
    r.Consults .rules name (r.rules name) :=
  (r.consults_ruleTable name).mapContract fun c table => (table.markRequired c.required).texts

theorem consults_rulesWithout (r : Registry) (name : String) (omission : Omission) :
    r.Consults .rules name (r.rulesWithout name omission) :=
  (r.consults_ruleTable name).mapContract fun c table =>
    RuleTable.texts ((table.markRequired c.required).without omission)

end Registry

/-! ## 3. The calls of an action -/

/-- The kind of the answer that a query about one contract asks for, and the name it asks about. -/
def Action.query? : Action → Option (AnswerKind × String)
  | .fields name => some (.fields, name)
  | .dataFields name => some (.fields, name)
  | .optionalRules name => some (.rules, name)
  | .rules name => some (.rules, name)
  | .rulesWithout name _ => some (.rules, name)
  | _ => none

/-- The fault of an answer that is one. -/
def Answer.fault? : Answer → Option QueryFault
  | .fields found => FieldRules.fault? found
  | .rules found => FieldRules.fault? found
  | .compiled found => FieldRules.fault? found
  | _ => none

namespace Registry

variable {r : Registry} {kind : AnswerKind} {name : String} {action : Action}

theorem topics_of_query? (r : Registry) (h : action.query? = some (kind, name)) :
    r.topics action = [(kind, name)] := by
  cases action <;> cases h <;> rfl

theorem after_of_query? (r : Registry) (h : action.query? = some (kind, name)) :
    r.after action = r := by
  cases action <;> cases h <;> rfl

/-- **The five queries have the law.** -/
theorem inquires_perform (h : action.query? = some (kind, name)) (j : Journal)
    (hkind : j.store.kind = .memory) (hfaithful : j.store.Faithful r) : ∃ calls t,
    ((r.perform action).run j).2 = ⟨t, j.calls ++ calls⟩ ∧
      r.Inquires kind name j.store ((r.perform action).run j).1.1.fault? calls t := by
  cases action with
  | fields name =>
    cases h
    exact r.consults_fields name j hkind hfaithful
  | dataFields name =>
    cases h
    exact r.consults_dataFields name j hkind hfaithful
  | optionalRules name =>
    cases h
    exact r.consults_optionalRules name j hkind hfaithful
  | rules name =>
    cases h
    exact r.consults_rules name j hkind hfaithful
  | rulesWithout name omission =>
    cases h
    exact r.consults_rulesWithout name omission j hkind hfaithful
  | _ => cases h

/-- Answers that are there for the same contracts end in the same faults. -/
theorem fault?_own_congr {α β : Type} {compute : Contract → Except UntypedProperty α}
    {compute' : Contract → Except UntypedProperty β}
    (h : ∀ c, fault? (compute c) = fault? (compute' c)) (r : Registry) (name : String) :
    fault? (r.own compute name) = fault? (r.own compute' name) := by
  unfold own
  cases r.contract name with
  | error e => rfl
  | ok c =>
    simp only [Except.bind, fault?_mapError]
    rw [h c]

/-- **A query ends in a fault exactly when there is nothing that belongs under its key.** -/
theorem fault?_plainAnswer (r : Registry) (h : action.query? = some (kind, name)) :
    (r.plainAnswer action).fault? = fault? (r.ownValue kind name) := by
  have hfields : ∀ (f : Contract → List String) (c : Contract),
      fault? (.ok (f c) : Except UntypedProperty _) = fault? (c.value .fields) := fun _ _ => rfl
  have hrules : ∀ {α : Type} (f : Contract → RuleTable → α) (c : Contract),
      fault? (c.ruleTable.map (f c)) = fault? (c.value .rules) := fun f c =>
    (fault?_map (f c) c.ruleTable).trans (fault?_map StoredValue.rules c.ruleTable).symm
  cases action with
  | fields name =>
    cases h
    exact fault?_own_congr (hfields Contract.fields) r name
  | dataFields name =>
    cases h
    exact fault?_own_congr (hfields Contract.dataFields) r name
  | optionalRules name =>
    cases h
    exact fault?_own_congr (hrules fun _ => RuleTable.texts) r name
  | rules name =>
    cases h
    exact fault?_own_congr (hrules fun c table => (table.markRequired c.required).texts) r name
  | rulesWithout name omission =>
    cases h
    exact fault?_own_congr (hrules fun c table =>
      RuleTable.texts ((table.markRequired c.required).without omission)) r name
  | _ => cases h

/-- What does not compile is there. -/
theorem find?_of_untyped {failure : UntypedProperty}
    (h : fault? (r.ownValue kind name) = some (.untyped failure)) :
    ∃ c, r.catalogue.find? name = some c := by
  cases hc : r.catalogue.find? name with
  | none =>
    rw [ownValue, own_of_unknown hc] at h
    cases h
  | some c => exact ⟨c, rfl⟩

/-! ### Every action -/

theorem thrifty_gather (r : Registry) (order : List String) (j : Journal)
    (hkind : j.store.kind = .memory) (hfaithful : j.store.Faithful r) : ∃ calls,
    ((r.gather order).run j).2.calls = j.calls ++ calls ∧
      j.store.Thrifty False none calls ((r.gather order).run j).2.store := by
  induction order generalizing j with
  | nil => exact ⟨[], (List.append_nil _).symm, .nil⟩
  | cons name rest ih =>
    obtain ⟨first, t, hrun, hasks⟩ := r.consults_rules name j hkind hfaithful
    have hrec := (r.answers_rules name).records j
    have hkind' := hrec.kind_eq.trans hkind
    obtain ⟨others, hcalls, hthrifty⟩ := ih _ hkind' (hrec.faithful hfaithful)
    rw [run_gather_cons]
    refine ⟨first ++ others, ?_, ?_⟩
    · rw [hcalls, hrun, List.append_assoc]
    · rw [hrun] at hthrifty ⊢
      exact hasks.thrifty.append hthrifty

/-- Both keys of a name that is new are deleted, and there is nothing under them. -/
theorem thrifty_register {r : Registry} {c : Contract} (hnew : r.catalogue.find? c.name = none)
    {s : Store} (hkind : s.kind = .memory) (hfaithful : s.Faithful r) :
    s.Thrifty False none
      [.delete (r.key .fields c.name) (s.holds (r.key .fields c.name)),
        .delete (r.key .rules c.name)
          ((s.delete (r.key .fields c.name)).holds (r.key .rules c.name))]
      ((s.delete (r.key .fields c.name)).delete (r.key .rules c.name)) := by
  have hfields := hfaithful.get?_eq_none hnew .fields
  have hrules : (s.delete (r.key .fields c.name)).get? (r.key .rules c.name) = none := by
    rw [Store.get?_delete, hfaithful.get?_eq_none hnew .rules, ite_self]
  have hkind' : (s.delete (r.key .fields c.name)).kind = .memory := hkind
  rw [Store.holds_eq_isSome hkind, Store.holds_eq_isSome hkind', hfields, hrules]
  exact .cons (.delete hfields) (.cons (.delete hrules) .nil)

/-- **Every action is thrifty** on a faithful store, and only a flush clears it. -/
theorem thrifty_perform (r : Registry) (action : Action) (j : Journal)
    (hkind : j.store.kind = .memory) (hfaithful : j.store.Faithful r) : ∃ calls,
    ((r.perform action).run j).2.calls = j.calls ++ calls ∧
      j.store.Thrifty (action = .flush) none calls ((r.perform action).run j).2.store := by
  cases hquery : action.query? with
  | some topic =>
    obtain ⟨calls, t, hrun, hasks⟩ := inquires_perform hquery j hkind hfaithful
    rw [hrun]
    exact ⟨calls, rfl, hasks.thrifty.mono False.elim⟩
  | none =>
    cases action with
    | register c =>
      by_cases h : (r.catalogue.find? c.name).isSome
      · have hrun := run_register_of_taken h j
        simp only [perform, StateT.run_bind, hrun]
        exact ⟨[], (List.append_nil _).symm, .nil⟩
      · have hrun := run_register_of_new h j
        simp only [perform, StateT.run_bind, hrun]
        have hnew : r.catalogue.find? c.name = none := by simpa using h
        exact ⟨_, List.append_assoc .., (thrifty_register hnew hkind hfaithful).mono False.elim⟩
    | flush => exact ⟨[.clear], rfl, .cons (.clear rfl) .nil⟩
    | allRules =>
      obtain ⟨calls, hcalls, hthrifty⟩ := r.thrifty_gather r.catalogue.names j hkind hfaithful
      exact ⟨calls, hcalls, hthrifty.mono False.elim⟩
    | allRulesIn order =>
      obtain ⟨calls, hcalls, hthrifty⟩ := r.thrifty_gather order j hkind hfaithful
      exact ⟨calls, hcalls, hthrifty.mono False.elim⟩
    | contract => exact ⟨[], (List.append_nil _).symm, .nil⟩
    | names => exact ⟨[], (List.append_nil _).symm, .nil⟩
    | checkContracts => exact ⟨[], (List.append_nil _).symm, .nil⟩
    | _ => cases hquery

end Registry

end FieldRules

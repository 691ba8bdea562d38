/-
# What an event does to a workspace

The events of a workspace are few, and each touches one thing: `Workspace.Moves` lists what can
become of a workspace in one event, and `moves_step` says that the list is complete.  Invariants
are read off that list, one case for each way to move, and then hold along every course of events
(`run_induction`).  What registering a contract does is said outright, in one lemma for a name that
is taken and one for a name that is new.

Two facts hold in every course.  The workspace is well formed (`WellFormed`): handles lead to
registries, registries have stores, and the number of a registry is given by its position.  As
long as fewer than `2 ^ 64` registries are opened, numbers tell them apart
(`WellFormed.position_eq`), because the counter has not come round.
-/
import FieldRules.Proofs.Registry.Actions

namespace FieldRules

/-! ## 1. Changes from outside -/

/-- The store that a change leaves. -/
def StoreChange.apply : StoreChange → Store → Store
  | .set key value, s => s.set key value
  | .delete key, s => s.delete key
  | .clear, s => s.clear

theorem StoreChange.store_perform (change : StoreChange) (j : Journal) :
    (change.perform.run j).2.store = change.apply j.store := by
  cases change <;> rfl

namespace Workspace

/-! ## 2. Well-formed workspaces -/

/-- Everything that a handle or a registry points to is there, and registries are numbered by
position. -/
structure WellFormed (w : Workspace) : Prop where
  handle_lt : ∀ {handle position : Nat}, w.handles[handle]? = some position →
    position < w.members.length
  store_lt : ∀ {position : Nat} {m : Member}, w.members[position]? = some m →
    m.store < w.stores.length
  number_eq : ∀ {position : Nat} {m : Member}, w.members[position]? = some m →
    m.registry.number = (position + 1) % 2 ^ 64

/-- Numbers tell registries apart while the counter has not come round. -/
theorem WellFormed.position_eq {w : Workspace} (hw : w.WellFormed)
    (hfew : w.members.length < 2 ^ 64) {i j : Nat} {m n : Member} (hi : w.members[i]? = some m)
    (hj : w.members[j]? = some n) (h : m.registry.number = n.registry.number) : i = j := by
  have hil : i < w.members.length := (List.getElem?_eq_some_iff.mp hi).1
  have hjl : j < w.members.length := (List.getElem?_eq_some_iff.mp hj).1
  rw [hw.number_eq hi, hw.number_eq hj, Nat.mod_eq_of_lt (by omega),
    Nat.mod_eq_of_lt (by omega)] at h
  omega

theorem WellFormed.exists_member {w : Workspace} (hw : w.WellFormed) {handle position : Nat}
    (hh : w.handles[handle]? = some position) : ∃ m, w.members[position]? = some m :=
  ⟨_, List.getElem?_eq_getElem (hw.handle_lt hh)⟩

theorem WellFormed.exists_store {w : Workspace} (hw : w.WellFormed) {position : Nat} {m : Member}
    (hm : w.members[position]? = some m) : ∃ s, w.stores[m.store]? = some s :=
  ⟨_, List.getElem?_eq_getElem (hw.store_lt hm)⟩

/-! ## 3. The ways to move -/

/-- The workspace after a registry has acted: the registry in its place, and its store. -/
def putBack (w : Workspace) (position : Nat) (m : Member) (registry : Registry) (t : Store) :
    Workspace :=
  { w with
    stores := w.stores.set m.store t
    members := w.members.set position { m with registry } }

/-- Writing what is there changes nothing. -/
theorem set_eq_self {α : Type} {l : List α} {a : α} {i : Nat} (h : l[i]? = some a) :
    l.set i a = l := by
  obtain ⟨hi, rfl⟩ := List.getElem?_eq_some_iff.mp h
  exact List.set_getElem_self hi

/-- A registry that stays as it is leaves the workspace as it is, but for its store. -/
theorem putBack_self {w : Workspace} {position : Nat} {m : Member}
    (hm : w.members[position]? = some m) (t : Store) :
    w.putBack position m m.registry t = { w with stores := w.stores.set m.store t } := by
  rw [putBack, set_eq_self hm]

/-- What can become of a workspace in an event. -/
inductive Moves (w : Workspace) : Event → Workspace → Prop
  | stay {event : Event} : Moves w event w
  | openStore {kind : StoreKind} : Moves w (.openStore kind) (w.openStore kind)
  | openRegistry {store : Nat} : store < w.stores.length →
      Moves w (.openRegistry store) (w.openRegistry store)
  | share {handle position : Nat} : w.handles[handle]? = some position →
      Moves w (.share handle) (w.share position)
  | ask {handle position : Nat} {m : Member} {s t : Store} {action : Action} :
      w.handles[handle]? = some position → w.members[position]? = some m →
      w.stores[m.store]? = some s → m.registry.Leaves s action t →
      Moves w (.ask handle action) (w.putBack position m (m.registry.after action) t)
  | change {position : Nat} {s : Store} {change : StoreChange} :
      w.stores[position]? = some s →
      Moves w (.change position change) { w with stores := w.stores.set position (change.apply s) }

/-- An action through a handle is performed by the registry behind it, on the store it uses. -/
theorem step_ask {w : Workspace} {handle position : Nat} {m : Member} {s : Store}
    (hh : w.handles[handle]? = some position) (hm : w.members[position]? = some m)
    (hs : w.stores[m.store]? = some s) (action : Action) :
    w.step (.ask handle action)
      = (.answered ((m.registry.perform action).run (.start s)).1.1
            ((m.registry.perform action).run (.start s)).2.calls,
          w.putBack position m (m.registry.after action)
            ((m.registry.perform action).run (.start s)).2.store) := by
  have hafter := m.registry.after_perform action (.start s)
  simp only [step, hh, Option.bind_some, onRegistry, hm, hs]
  rw [← hafter]
  rfl

theorem step_ask_of_none {w : Workspace} {handle : Nat} (h : w.handles[handle]? = none)
    (action : Action) : w.step (.ask handle action) = (.missing, w) := by
  simp only [step, h, Option.bind_none]

/-- A change from outside is made to the store and to nothing else. -/
theorem step_change {w : Workspace} {position : Nat} {s : Store}
    (hs : w.stores[position]? = some s) (change : StoreChange) :
    (w.step (.change position change)).2
      = { w with stores := w.stores.set position (change.apply s) } := by
  have hstore : (change.perform.run (.start s)).2.store = change.apply s :=
    change.store_perform (.start s)
  simp only [step, onStore, hs]
  rw [← hstore]
  rfl

/-- **The list of moves is complete.** -/
theorem moves_step {w : Workspace} (hw : w.WellFormed) (event : Event) :
    w.Moves event (w.step event).2 := by
  cases event with
  | openStore kind => exact .openStore
  | openRegistry store =>
    by_cases h : store < w.stores.length
    · simp only [step, if_pos h]
      exact .openRegistry h
    · simp only [step, if_neg h]
      exact .stay
  | share handle =>
    cases hh : w.handles[handle]? with
    | none =>
      simp only [step, hh]
      exact .stay
    | some position =>
      simp only [step, hh]
      exact .share hh
  | ask handle action =>
    cases hh : w.handles[handle]? with
    | none =>
      rw [step_ask_of_none hh]
      exact .stay
    | some position =>
      obtain ⟨m, hm⟩ := hw.exists_member hh
      obtain ⟨s, hs⟩ := hw.exists_store hm
      rw [step_ask hh hm hs]
      exact .ask hh hm hs (m.registry.leaves_perform action (.start s))
  | change position change =>
    cases hs : w.stores[position]? with
    | none =>
      simp only [step, onStore, hs]
      exact .stay
    | some s =>
      rw [step_change hs]
      exact .change hs

/-! ### Registering -/

section

variable {w : Workspace} {handle position : Nat} {m : Member} {s : Store} {c : Contract}

/-- A contract whose name is taken is turned away, and nothing happens. -/
theorem step_register_of_taken (hh : w.handles[handle]? = some position)
    (hm : w.members[position]? = some m) (hs : w.stores[m.store]? = some s)
    (htaken : (m.registry.catalogue.find? c.name).isSome) :
    w.step (.ask handle (.register c))
      = (.answered (.registered (some (.duplicateName c.name))) [], w) := by
  have hrun := Registry.run_register_of_taken htaken (.start s)
  have hperform : (m.registry.perform (.register c)).run (.start s)
      = ((.registered (some (.duplicateName c.name)), m.registry), .start s) := by
    simp only [Registry.perform, StateT.run_bind, hrun]
    rfl
  have hstore : w.stores.set m.store (Journal.start s).store = w.stores := set_eq_self hs
  rw [step_ask hh hm hs, hperform, Registry.after_register_of_taken htaken, putBack_self hm, hstore]
  rfl

/-- A contract of a new name comes in, and its keys are cleared. -/
theorem step_register_of_new (hh : w.handles[handle]? = some position)
    (hm : w.members[position]? = some m) (hs : w.stores[m.store]? = some s)
    (hnew : ¬(m.registry.catalogue.find? c.name).isSome) :
    ∃ calls t, w.step (.ask handle (.register c))
        = (.answered (.registered none) calls,
            w.putBack position m { m.registry with catalogue := m.registry.catalogue.insert c } t) ∧
      m.registry.Clears c.name s t := by
  have hrun := Registry.run_register_of_new hnew (.start s)
  refine ⟨((m.registry.register c).run (.start s)).2.calls, _, ?_,
    m.registry.clears_delete c.name s⟩
  rw [step_ask hh hm hs, Registry.after_register_of_new hnew]
  simp only [Registry.perform, StateT.run_bind, hrun]
  rfl

end

/-! ## 4. What every move keeps -/

/-- Whether an event opens a registry, which takes a number. -/
def Event.opensRegistry : Event → Bool
  | .openRegistry _ => true
  | _ => false

/-- The registries after one has acted: that one, and the others as they were. -/
theorem getElem?_members_putBack {w : Workspace} {position i : Nat} {m n : Member}
    {registry : Registry} {t : Store}
    (h : (w.putBack position m registry t).members[i]? = some n) :
    (i = position ∧ n = { m with registry }) ∨ (i ≠ position ∧ w.members[i]? = some n) := by
  rw [putBack, List.getElem?_set] at h
  split at h
  · rename_i heq
    split at h
    · exact .inl ⟨heq.symm, (Option.some.inj h).symm⟩
    · cases h
  · rename_i hne
    exact .inr ⟨Ne.symm hne, h⟩

theorem getElem?_set_of_some {α : Type} {l : List α} {a b : α} {i : Nat} (h : l[i]? = some a) :
    (l.set i b)[i]? = some b :=
  List.getElem?_set_self (List.getElem?_eq_some_iff.mp h).1

theorem getElem?_append_of_some {α : Type} {l m : List α} {a : α} {i : Nat} (h : l[i]? = some a) :
    (l ++ m)[i]? = some a :=
  (List.getElem?_append_left (List.getElem?_eq_some_iff.mp h).1).trans h

/-- A list with one more entry at the end. -/
theorem getElem?_append_singleton {α : Type} {l : List α} {a b : α} {i : Nat}
    (h : (l ++ [a])[i]? = some b) : l[i]? = some b ∨ (i = l.length ∧ b = a) := by
  rcases Nat.lt_trichotomy i l.length with hlt | heq | hgt
  · rw [List.getElem?_append_left hlt] at h
    exact .inl h
  · subst heq
    rw [List.getElem?_concat_length] at h
    exact .inr ⟨rfl, (Option.some.inj h).symm⟩
  · have hlen := (List.getElem?_eq_some_iff.mp h).1
    simp only [List.length_append, List.length_singleton] at hlen
    omega

namespace Moves

variable {w w' : Workspace} {event : Event}

theorem wellFormed (h : w.Moves event w') (hw : w.WellFormed) : w'.WellFormed := by
  cases h with
  | stay => exact hw
  | openStore =>
    refine ⟨hw.handle_lt, fun hm => ?_, hw.number_eq⟩
    have hlt := hw.store_lt hm
    simp only [Workspace.openStore, List.length_append]
    omega
  | @openRegistry store hstore =>
    refine ⟨fun {handle position} hh => ?_, fun {position m} hm => ?_, fun {position m} hm => ?_⟩
    · simp only [Workspace.openRegistry, List.length_append, List.length_singleton]
      rcases getElem?_append_singleton hh with hh | ⟨-, rfl⟩
      · exact Nat.lt_succ_of_lt (hw.handle_lt hh)
      · exact Nat.lt_succ_self _
    · rcases getElem?_append_singleton hm with hm | ⟨-, rfl⟩
      · exact hw.store_lt hm
      · exact hstore
    · rcases getElem?_append_singleton hm with hm | ⟨rfl, rfl⟩
      · exact hw.number_eq hm
      · rfl
  | @share handle position hh =>
    refine ⟨fun {other position'} hother => ?_, hw.store_lt, hw.number_eq⟩
    rcases getElem?_append_singleton hother with hother | ⟨-, rfl⟩
    · exact hw.handle_lt hother
    · exact hw.handle_lt hh
  | @ask handle position m s t action hh hm hs hleaves =>
    refine ⟨fun {other position'} hother => ?_, fun {i n} hn => ?_, fun {i n} hn => ?_⟩
    · rw [putBack, List.length_set]
      exact hw.handle_lt hother
    · rw [putBack, List.length_set]
      have hlt := hw.store_lt hm
      rcases getElem?_members_putBack hn with ⟨-, rfl⟩ | ⟨-, hn⟩
      · exact hlt
      · exact hw.store_lt hn
    · rcases getElem?_members_putBack hn with ⟨rfl, rfl⟩ | ⟨-, hn⟩
      · exact (m.registry.number_after action).trans (hw.number_eq hm)
      · exact hw.number_eq hn
  | change hs =>
    refine ⟨hw.handle_lt, fun {position m} hm => ?_, hw.number_eq⟩
    simp only [List.length_set]
    exact hw.store_lt hm

/-- Registries come in one at a time, and none goes. -/
theorem length_members (h : w.Moves event w') :
    w.members.length ≤ w'.members.length ∧
      w'.members.length ≤ w.members.length + if event.opensRegistry then 1 else 0 := by
  cases h with
  | openRegistry =>
    simp [Workspace.openRegistry, Event.opensRegistry]
  | ask => simp [putBack]
  | _ => exact ⟨Nat.le_refl _, Nat.le_add_right _ _⟩

end Moves

/-! ## 5. Answers -/

deriving instance DecidableEq for Answer

/-- **What is asked is answered plainly** when the store is truthful about all that is asked. -/
theorem ask_eq_plainAnswer {w : Workspace} {handle position : Nat} {m : Member} {s : Store}
    (hh : w.handles[handle]? = some position) (hm : w.members[position]? = some m)
    (hs : w.stores[m.store]? = some s) {action : Action}
    (htrue : ∀ topic ∈ m.registry.topics action, s.Truthful m.registry topic.1 topic.2) :
    w.ask handle action = some (m.registry.plainAnswer action) := by
  rw [ask, step_ask hh hm hs]
  exact congrArg some (m.registry.answer_perform action (.start s) htrue)

theorem ask_of_no_topics {w : Workspace} {handle position : Nat} {m : Member} {s : Store}
    {action : Action} (hh : w.handles[handle]? = some position)
    (hm : w.members[position]? = some m) (hs : w.stores[m.store]? = some s)
    (htopics : m.registry.topics action = []) :
    w.ask handle action = some (m.registry.plainAnswer action) := by
  refine ask_eq_plainAnswer hh hm hs fun topic htopic => ?_
  rw [htopics] at htopic
  cases htopic

theorem ask_of_topic {w : Workspace} {handle position : Nat} {m : Member} {s : Store}
    {kind : AnswerKind} {name : String} {action : Action}
    (hh : w.handles[handle]? = some position) (hm : w.members[position]? = some m)
    (hs : w.stores[m.store]? = some s) (htrue : s.Truthful m.registry kind name)
    (htopics : m.registry.topics action = [(kind, name)]) :
    w.ask handle action = some (m.registry.plainAnswer action) := by
  refine ask_eq_plainAnswer hh hm hs fun topic htopic => ?_
  rw [htopics, List.mem_singleton] at htopic
  rw [htopic]
  exact htrue

/-- A contract that is found through a handle is in the catalogue behind it. -/
theorem find?_of_ask_contract {w : Workspace} (hw : w.WellFormed) {handle : Nat} {name : String}
    {c : Contract} (h : w.ask handle (.contract name) = some (.contract (some c))) :
    ∃ position m, w.handles[handle]? = some position ∧ w.members[position]? = some m ∧
      m.registry.catalogue.find? name = some c := by
  cases hh : w.handles[handle]? with
  | none =>
    rw [ask, step_ask_of_none hh] at h
    cases h
  | some position =>
    obtain ⟨m, hm⟩ := hw.exists_member hh
    obtain ⟨s, hs⟩ := hw.exists_store hm
    have hplain : w.ask handle (.contract name) = some (m.registry.plainAnswer (.contract name)) :=
      ask_of_no_topics hh hm hs rfl
    rw [hplain] at h
    exact ⟨position, m, rfl, hm, Answer.contract.inj (Option.some.inj h)⟩

/-- Every query about a name gives what the contract itself gives. -/
structure AnswersAs (w : Workspace) (handle : Nat) (name : String) (c : Contract) : Prop where
  fields : w.ask handle (.fields name) = some (.fields (.ok c.fields))
  dataFields : w.ask handle (.dataFields name) = some (.fields (.ok c.dataFields))
  optionalRules : w.ask handle (.optionalRules name)
    = some (.rules (c.optionalRules.mapError .untyped))
  rules : w.ask handle (.rules name) = some (.rules (c.rules.mapError .untyped))
  rulesWithout : ∀ omission, w.ask handle (.rulesWithout name omission)
    = some (.rules ((c.rulesWithout omission).mapError .untyped))

theorem answersAs_of_truthful {w : Workspace} {handle position : Nat} {m : Member} {s : Store}
    {name : String} {c : Contract} (hh : w.handles[handle]? = some position)
    (hm : w.members[position]? = some m) (hs : w.stores[m.store]? = some s)
    (hc : m.registry.catalogue.find? name = some c)
    (htrue : ∀ kind, s.Truthful m.registry kind name) : w.AnswersAs handle name c := by
  refine ⟨?_, ?_, ?_, ?_, fun omission => ?_⟩ <;>
    rw [ask_of_topic hh hm hs (htrue _) rfl, Registry.plainAnswer, Registry.own_of_find? hc] <;>
    rfl

/-! ## 6. Courses of events -/

theorem wellFormed_empty : empty.WellFormed := by
  constructor <;> intro _ _ h <;> cases h

theorem wellFormed_run : ∀ (events : List Event) {w : Workspace}, w.WellFormed →
    (w.run events).2.WellFormed
  | [], _, hw => hw
  | event :: rest, _, hw => wellFormed_run rest ((moves_step hw event).wellFormed hw)

theorem snd_run_append : ∀ (first second : List Event) (w : Workspace),
    (w.run (first ++ second)).2 = ((w.run first).2.run second).2
  | [], _, _ => rfl
  | event :: rest, second, w => snd_run_append rest second (w.step event).2

theorem length_members_run : ∀ (events : List Event) {w : Workspace}, w.WellFormed →
    (w.run events).2.members.length ≤ w.members.length + events.countP Event.opensRegistry
  | [], _, _ => Nat.le_refl _
  | event :: rest, w, hw => by
    have hmoves := moves_step hw event
    have hlen := hmoves.length_members.2
    have hrest := length_members_run rest (hmoves.wellFormed hw)
    rw [List.countP_cons]
    calc ((w.step event).2.run rest).2.members.length
        ≤ (w.step event).2.members.length + rest.countP Event.opensRegistry := hrest
      _ ≤ _ := by omega

/-- In a course from the beginning there are no more registries than were opened. -/
theorem length_members_lt {events : List Event}
    (hfew : events.countP Event.opensRegistry < 2 ^ 64) :
    (empty.run events).2.members.length < 2 ^ 64 := by
  have hle := length_members_run events wellFormed_empty
  rw [show empty.members.length = 0 from rfl] at hle
  omega

/-- **Induction along a course of events.**  What each move keeps, in a well-formed workspace
whose registries have numbers of their own, holds at the end of a course in which all events are
`allowed` and fewer than `2 ^ 64` registries are opened. -/
theorem run_induction {I : Workspace → Prop} {allowed : Event → Prop}
    (hstep : ∀ {w w' : Workspace} {event : Event}, w.WellFormed → w'.members.length < 2 ^ 64 →
      allowed event → w.Moves event w' → I w → I w') :
    ∀ (events : List Event) {w : Workspace}, w.WellFormed →
      w.members.length + events.countP Event.opensRegistry < 2 ^ 64 →
      (∀ event ∈ events, allowed event) → I w → I (w.run events).2
  | [], _, _, _, _, h => h
  | event :: rest, w, hw, hfew, hall, h => by
    have hmoves := moves_step hw event
    have hlen := hmoves.length_members.2
    rw [List.countP_cons] at hfew
    have hnext : I (w.step event).2 :=
      hstep hw (by omega) (hall event List.mem_cons_self) hmoves h
    have hrest : (w.step event).2.members.length + rest.countP Event.opensRegistry < 2 ^ 64 := by
      omega
    exact run_induction hstep rest (hmoves.wellFormed hw) hrest
      (fun other hother => hall other (List.mem_cons_of_mem _ hother)) hnext

end Workspace

end FieldRules

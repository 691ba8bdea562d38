/-
# Interference with a store from outside

Someone who shares a store with registries may write what he likes under any key, and take
entries away.  A registered contract is answered rightly all the same, unless he writes under one
of its two keys a value of the very kind that belongs there.

Registering clears both keys, so nothing planted before survives it.  From then on the store is
truthful about the name (`Workspace.Settled`), and stays so: a registry writes own answers only,
the keys of other registries are other keys, and a value of the wrong kind says nothing, since
the query that finds it works the answer out and writes it anew.
-/
import FieldRules.Proofs.Workspace.Steps

namespace FieldRules

namespace Workspace

/-! ## 1. The invariant -/

/-- A handle leads to a registry of a given number on a given store that has the contract, and the
store is truthful about it. -/
structure Settled (handle position store number : Nat) (c : Contract) (w : Workspace) : Prop where
  handle_eq : w.handles[handle]? = some position
  exists_truthful : ∃ r s, w.members[position]? = some ⟨r, store⟩ ∧ r.number = number ∧
    r.catalogue.find? c.name = some c ∧ w.stores[store]? = some s ∧
    ∀ kind, s.Truthful r kind c.name

/-- The key of an answer in the scope of a number. -/
def keyOfNumber (number : Nat) (kind : AnswerKind) (name : String) : StoreKey :=
  (Registry.new number).key kind name

theorem keyOfNumber_eq (r : Registry) (kind : AnswerKind) (name : String) :
    keyOfNumber r.number kind name = r.key kind name := rfl

/-- An event writes no value of the right kind under a key of the name. -/
def Event.SparesKeys (store number : Nat) (name : String) (event : Event) : Prop :=
  ∀ key value, event = .change store (.set key value) → key ≠ keyOfNumber number value.kind name

/-! ## 2. What every move keeps -/

section

variable {handle position store number : Nat} {c : Contract}

theorem Settled.change {w : Workspace} (h : Settled handle position store number c w)
    {other : Nat} {t : Store} {change : StoreChange} (ht : w.stores[other]? = some t)
    (hspare : (Event.change other change).SparesKeys store number c.name) :
    Settled handle position store number c
      { w with stores := w.stores.set other (change.apply t) } := by
  obtain ⟨hh, r, s, hm, hnumber, hc, hs, htrue⟩ := h
  by_cases hother : other = store
  · subst hother
    rw [hs] at ht
    cases ht
    refine ⟨hh, r, change.apply t, hm, hnumber, hc, ?_, fun kind => ?_⟩
    · exact getElem?_set_of_some hs
    · cases change with
      | set key value =>
        refine (htrue kind).set fun hkey hkind => ?_
        have hne := hspare key value rfl
        rw [hkind, ← hnumber, keyOfNumber_eq] at hne
        exact absurd hkey hne
      | delete key => exact (htrue kind).delete key
      | clear => exact .clear t r kind c.name
  · exact ⟨hh, r, s, hm, hnumber, hc, (List.getElem?_set_ne hother).trans hs, htrue⟩

theorem Settled.putBack {w : Workspace} (h : Settled handle position store number c w)
    (hw : w.WellFormed) (hfew : w.members.length < 2 ^ 64) {other : Nat} {m : Member}
    {s' t : Store} {action : Action} (hm' : w.members[other]? = some m)
    (hs' : w.stores[m.store]? = some s') (hleaves : m.registry.Leaves s' action t) :
    Settled handle position store number c
      (w.putBack other m (m.registry.after action) t) := by
  obtain ⟨hh, r, s, hm, hnumber, hc, hs, htrue⟩ := h
  by_cases hother : other = position
  · -- the registry itself has acted, on the store in question
    subst hother
    rw [hm] at hm'
    cases hm'
    rw [hs] at hs'
    cases hs'
    refine ⟨hh, r.after action, t, ?_, (r.number_after action).trans hnumber,
      Registry.find?_after hc action, ?_, fun kind => hleaves.truthful hc (htrue kind)⟩
    · exact getElem?_set_of_some hm
    · exact getElem?_set_of_some hs
  · have hne : r.number ≠ m.registry.number := fun heq =>
      hother (hw.position_eq hfew hm' hm heq.symm)
    have hmember : (w.putBack other m (m.registry.after action) t).members[position]?
        = some ⟨r, store⟩ := (List.getElem?_set_ne hother).trans hm
    by_cases hstore : m.store = store
    · subst hstore
      rw [hs] at hs'
      cases hs'
      refine ⟨hh, r, t, hmember, hnumber, hc, ?_, fun kind =>
        hleaves.truthful_of_number_ne hne (htrue kind)⟩
      exact getElem?_set_of_some hs
    · exact ⟨hh, r, s, hmember, hnumber, hc, (List.getElem?_set_ne hstore).trans hs, htrue⟩

/-- **A settled contract stays settled** in every event that spares its keys. -/
theorem Moves.settled {w w' : Workspace} {event : Event} (hmoves : w.Moves event w')
    (hw : w.WellFormed) (hfew : w'.members.length < 2 ^ 64)
    (hspare : event.SparesKeys store number c.name)
    (h : Settled handle position store number c w) :
    Settled handle position store number c w' := by
  have hfew' : w.members.length < 2 ^ 64 := Nat.lt_of_le_of_lt hmoves.length_members.1 hfew
  cases hmoves with
  | stay => exact h
  | openStore =>
    obtain ⟨hh, r, s, hm, hnumber, hc, hs, htrue⟩ := h
    refine ⟨hh, r, s, hm, hnumber, hc, ?_, htrue⟩
    exact getElem?_append_of_some hs
  | openRegistry =>
    obtain ⟨hh, r, s, hm, hnumber, hc, hs, htrue⟩ := h
    refine ⟨?_, r, s, ?_, hnumber, hc, hs, htrue⟩
    · exact getElem?_append_of_some hh
    · exact getElem?_append_of_some hm
  | share =>
    obtain ⟨hh, hrest⟩ := h
    refine ⟨?_, hrest⟩
    exact getElem?_append_of_some hh
  | ask _ hm hs hleaves => exact h.putBack hw hfew' hm hs hleaves
  | change ht => exact h.change ht hspare

/-- Nor does a course of such events change anything. -/
theorem settled_run (events : List Event) {w : Workspace} (hw : w.WellFormed)
    (hfew : w.members.length + events.countP Event.opensRegistry < 2 ^ 64)
    (hspare : ∀ event ∈ events, event.SparesKeys store number c.name)
    (h : Settled handle position store number c w) :
    Settled handle position store number c (w.run events).2 := by
  have hstep : ∀ {v v' : Workspace} {event : Event}, v.WellFormed → v'.members.length < 2 ^ 64 →
      event.SparesKeys store number c.name → v.Moves event v' →
      Settled handle position store number c v → Settled handle position store number c v' :=
    fun hv hfew' hspare' hmoves hset => hmoves.settled hv hfew' hspare' hset
  exact run_induction hstep events hw hfew hspare h

end

/-! ## 3. Registering settles a contract -/

/-- Whatever the store held, both keys are clear when a contract has come in. -/
theorem settled_of_registered {w : Workspace} (hw : w.WellFormed) {handle : Nat} {m : Member}
    {c : Contract} (hm : w.member? handle = some m)
    (hreg : w.ask handle (.register c) = some (.registered none)) :
    ∃ position, Settled handle position m.store m.registry.number c
      (w.step (.ask handle (.register c))).2 := by
  obtain ⟨position, hh, hmember⟩ := Option.bind_eq_some_iff.mp hm
  obtain ⟨s, hs⟩ := hw.exists_store hmember
  have hnew : ¬(m.registry.catalogue.find? c.name).isSome := by
    intro htaken
    rw [ask, step_register_of_taken hh hmember hs htaken] at hreg
    cases hreg
  obtain ⟨calls, t, hstep, hclears⟩ := step_register_of_new hh hmember hs hnew
  refine ⟨position, ?_⟩
  rw [hstep]
  refine ⟨hh, ⟨m.registry.number, m.registry.catalogue.insert c⟩, t, ?_, rfl, ?_, ?_, ?_⟩
  · exact getElem?_set_of_some hmember
  · rw [Catalogue.find?_insert, if_pos rfl]
  · exact getElem?_set_of_some hs
  · intro kind value hvalue _
    cases (hclears.gone kind).symm.trans hvalue

/-- **A settled contract is answered as it answers itself**, through every handle of its
registry. -/
theorem Settled.answersAs {w : Workspace} {handle position store number : Nat} {c : Contract}
    (h : Settled handle position store number c w) {other : Nat}
    (hother : w.handles[other]? = w.handles[handle]?) : w.AnswersAs other c.name c := by
  obtain ⟨hh, r, s, hm, -, hc, hs, htrue⟩ := h
  exact answersAs_of_truthful (hother.trans hh) hm hs hc htrue

/-! ## 4. Values of the wrong kind -/

/-- **A value of the wrong kind is a miss**: every query that finds it is answered as if it had
been taken away. -/
theorem ask_of_wrong_kind {w : Workspace} {handle : Nat} {m : Member} {s : Store}
    {kind : AnswerKind} {name : String} {value : StoredValue} {action : Action}
    (hm : w.member? handle = some m) (hs : w.stores[m.store]? = some s)
    (hget : s.get? (m.registry.key kind name) = some value) (hkind : value.kind ≠ kind)
    (htopics : m.registry.topics action = [(kind, name)]) :
    w.ask handle action = some (m.registry.plainAnswer action) ∧
      (w.step (.change m.store (.delete (m.registry.key kind name)))).2.ask handle action
        = some (m.registry.plainAnswer action) := by
  obtain ⟨position, hh, hmember⟩ := Option.bind_eq_some_iff.mp hm
  have htrue : s.Truthful m.registry kind name := by
    intro found hfound hsame
    rw [hget] at hfound
    cases hfound
    exact absurd hsame hkind
  constructor
  · exact ask_of_topic hh hmember hs htrue htopics
  · -- with the entry taken away, the key is clear
    rw [step_change hs]
    have hclear : (s.delete (m.registry.key kind name)).Truthful m.registry kind name :=
      .of_delete s m.registry kind name
    exact ask_of_topic (w := { w with stores := w.stores.set m.store _ }) hh hmember
      (getElem?_set_of_some hs) hclear htopics

/-! ## 5. Immunity -/

/-- **A registered contract is immune to what others do to the store.**  Let anything happen
before a contract is registered, values planted under its keys included, and anything after it
but for one thing: no value from outside of the kind that belongs there is written under a key of
the contract.  While fewer than `2 ^ 64` registries are opened, every query about the name is
from then on answered as the contract itself answers it, through each handle of the registry.  At
all times, a value of the wrong kind under a key is as good as none. -/
theorem registered_answersAs :
    (∀ (before after : List Event) (handle : Nat) (m : Member) (c : Contract),
      (before ++ after).countP Event.opensRegistry < 2 ^ 64 →
      (empty.run before).2.member? handle = some m →
      (empty.run before).2.ask handle (.register c) = some (.registered none) →
      (∀ key value, Event.change m.store (.set key value) ∈ after →
        key ≠ m.registry.key value.kind c.name) →
      ∀ other,
        (empty.run (before ++ .ask handle (.register c) :: after)).2.handles[other]?
          = (empty.run (before ++ .ask handle (.register c) :: after)).2.handles[handle]? →
        (empty.run (before ++ .ask handle (.register c) :: after)).2.AnswersAs other c.name c) ∧
    (∀ (events : List Event) (handle : Nat) (m : Member) (s : Store) (kind : AnswerKind)
      (name : String) (value : StoredValue) (action : Action),
      (empty.run events).2.member? handle = some m →
      (empty.run events).2.stores[m.store]? = some s →
      s.get? (m.registry.key kind name) = some value → value.kind ≠ kind →
      m.registry.topics action = [(kind, name)] →
      (empty.run events).2.ask handle action = some (m.registry.plainAnswer action) ∧
        (empty.run (events ++ [.change m.store (.delete (m.registry.key kind name))])).2.ask
          handle action = some (m.registry.plainAnswer action)) := by
  constructor
  · intro before after handle m c hfew hm hreg hspare other hother
    have hw : (empty.run before).2.WellFormed := wellFormed_run before wellFormed_empty
    obtain ⟨position, hsettled⟩ := settled_of_registered hw hm hreg
    have hmoves := moves_step hw (.ask handle (.register c))
    have hlen : ((empty.run before).2.step (.ask handle (.register c))).2.members.length
        + after.countP Event.opensRegistry < 2 ^ 64 := by
      have hbefore := length_members_run before wellFormed_empty
      have hone := hmoves.length_members.2
      rw [List.countP_append] at hfew
      simp only [Event.opensRegistry, Bool.false_eq_true, if_false] at hone
      rw [show empty.members.length = 0 from rfl] at hbefore
      omega
    have hend := settled_run after (hmoves.wellFormed hw) hlen
      (fun event hevent key value heq => hspare key value (heq ▸ hevent)) hsettled
    rw [snd_run_append] at hother ⊢
    exact hend.answersAs hother
  · intro events handle m s kind name value action hm hs hget hkind htopics
    rw [snd_run_append]
    exact ask_of_wrong_kind hm hs hget hkind htopics

/-! ### One course

Values are planted under both keys of a name before its contract comes in.  Afterwards a value is
written under the key of another registry, and one of the wrong kind under the right key. -/

/-- A contract with one field that must be there. -/
def sizeContract : Contract :=
  ⟨"sizes", ⟨[("size", .object [("type", .string "integer")])], by decide⟩, ["size"], "id"⟩

/-- What happens before the contract comes in. -/
def plantingCourse : List Event :=
  [.openStore .memory, .openRegistry 0, .openRegistry 0, .share 0,
    .change 0 (.set (keyOfNumber 1 .fields "sizes") (.fields ["planted"])),
    .change 0 (.set (keyOfNumber 1 .rules "sizes") (.rules .empty))]

/-- What happens after it has come in. -/
def intrudingCourse : List Event :=
  [.ask 0 (.rules "sizes"),
    .change 0 (.set (keyOfNumber 2 .fields "sizes") (.fields ["foreign"])),
    .change 0 (.set (keyOfNumber 1 .rules "sizes") (.fields []))]

def intrudedCourse : List Event :=
  plantingCourse ++ .ask 0 (.register sizeContract) :: intrudingCourse

/-- The store of that course in the end. -/
def intrudedStore : Store :=
  ⟨.memory, .ofList [((keyOfNumber 1 .rules "sizes").text, .fields []),
    ((keyOfNumber 2 .fields "sizes").text, .fields ["foreign"])]⟩

theorem registered_answersAs_intruded :
    (empty.run intrudedCourse).2.AnswersAs 2 "sizes" sizeContract ∧
      (empty.run intrudedCourse).2.stores[0]? = some intrudedStore ∧
      (empty.run intrudedCourse).2.ask 0 (.rules "sizes")
        = some ((Registry.mk 1 (Catalogue.empty.insert sizeContract)).plainAnswer
          (.rules "sizes")) := by
  have hfew : (plantingCourse ++ intrudingCourse).countP Event.opensRegistry < 2 ^ 64 := by
    decide
  have hm : (empty.run plantingCourse).2.member? 0 = some ⟨⟨1, .empty⟩, 0⟩ := by
    decide +kernel
  have hreg : (empty.run plantingCourse).2.ask 0 (.register sizeContract)
      = some (.registered none) := by
    decide +kernel
  have hspare : ∀ key value, Event.change 0 (.set key value) ∈ intrudingCourse →
      key ≠ keyOfNumber 1 value.kind "sizes" := by
    intro key value hmem
    simp only [intrudingCourse, List.mem_cons, List.not_mem_nil, reduceCtorEq, false_or,
      or_false, Event.change.injEq, StoreChange.set.injEq, true_and] at hmem
    rcases hmem with ⟨rfl, rfl⟩ | ⟨rfl, rfl⟩ <;> decide +kernel
  have hsame : (empty.run intrudedCourse).2.handles[2]?
      = (empty.run intrudedCourse).2.handles[0]? := by
    decide +kernel
  have hm' : (empty.run intrudedCourse).2.member? 0
      = some ⟨⟨1, Catalogue.empty.insert sizeContract⟩, 0⟩ := by
    decide +kernel
  have hs : (empty.run intrudedCourse).2.stores[0]? = some intrudedStore := by
    decide +kernel
  have hget : intrudedStore.get? (keyOfNumber 1 .rules "sizes") = some (.fields []) := by
    decide +kernel
  obtain ⟨himmune, hmiss⟩ := registered_answersAs
  refine ⟨himmune plantingCourse intrudingCourse 0 _ sizeContract hfew hm hreg hspare 2 hsame,
    hs, ?_⟩
  exact (hmiss intrudedCourse 0 _ intrudedStore .rules "sizes" (.fields []) (.rules "sizes") hm' hs
    hget (by decide) rfl).1

end Workspace

end FieldRules

/-
# Stores never change an answer

Stores save work and nothing else: in every course of events in which values come into the stores
from registries alone, each answer is the one that the same course gives when every store keeps
nothing.  Stores may be shared, be of any kind and lose entries at any time.

The invariant is that every value in every store can be accounted for (`Workspace.Accounted`): it
is the own answer of some registry, under that registry's key.  A registry that is opened later
on the same store finds no entry under its keys, because its number is new; a contract that comes
in later makes no entry wrong, because own answers exist for names that are there, and those
stay.  With numbers that tell registries apart, what can be accounted for is truthful
(`Accounted.truthful`), so every answer is the plain one.

Two workspaces that differ in their stores only (`Workspace.Alike`) then answer alike, event by
event, and stay alike.
-/
import FieldRules.Proofs.Workspace.Steps

namespace FieldRules

namespace Workspace

/-! ## 1. Every stored value is some registry's own answer -/

/-- A value is the own answer of a registry, and the key is the registry's key of it. -/
def Owns (w : Workspace) (key : StoreKey) (value : StoredValue) : Prop :=
  ∃ (position : Nat) (m : Member) (kind : AnswerKind) (name : String),
    w.members[position]? = some m ∧ key = m.registry.key kind name ∧
      m.registry.ownValue kind name = .ok value

/-- Every stored value is the own answer of a registry, under the registry's key. -/
def Accounted (w : Workspace) : Prop :=
  ∀ ⦃position : Nat⦄ ⦃s : Store⦄, w.stores[position]? = some s →
    ∀ ⦃key : StoreKey⦄ ⦃value : StoredValue⦄, s.get? key = some value → w.Owns key value

/-- A store whose values can be accounted for is faithful to every registry. -/
theorem Accounted.faithful {w : Workspace} (h : w.Accounted) (hw : w.WellFormed)
    (hfew : w.members.length < 2 ^ 64) {position i : Nat} {s : Store} {m : Member}
    (hs : w.stores[position]? = some s) (hm : w.members[i]? = some m) :
    s.Faithful m.registry := by
  intro kind name value hvalue
  obtain ⟨i', m', kind', name', hm', hkey, hown⟩ := h hs hvalue
  obtain ⟨hnumber, rfl, rfl⟩ := Registry.key_inj hkey
  have hi : i = i' := hw.position_eq hfew hm hm' hnumber
  subst hi
  rw [hm] at hm'
  cases hm'
  exact hown

/-- What can be accounted for is truthful about every registry. -/
theorem Accounted.truthful {w : Workspace} (h : w.Accounted) (hw : w.WellFormed)
    (hfew : w.members.length < 2 ^ 64) {position i : Nat} {s : Store} {m : Member}
    (hs : w.stores[position]? = some s) (hm : w.members[i]? = some m) (kind : AnswerKind)
    (name : String) : s.Truthful m.registry kind name :=
  (h.faithful hw hfew hs hm).truthful kind name

theorem accounted_empty : empty.Accounted := by
  intro position s hs
  cases hs

/-- Whether an event leaves it to the registries to write values. -/
def Event.writesNothing : Event → Bool
  | .change _ (.set _ _) => false
  | _ => true

/-- Dropping entries brings nothing in. -/
theorem get?_apply_of_writesNothing {position : Nat} {change : StoreChange}
    (h : (Event.change position change).writesNothing) {s : Store} {key : StoreKey}
    {value : StoredValue} (hget : (change.apply s).get? key = some value) :
    s.get? key = some value := by
  cases change with
  | set other new => cases h
  | delete other =>
    rw [StoreChange.apply, Store.get?_delete] at hget
    split at hget
    · cases hget
    · exact hget
  | clear =>
    rw [StoreChange.apply, Store.get?_clear] at hget
    cases hget

/-- A registry that has acted still gives every own answer that it gave. -/
theorem Owns.putBack {w : Workspace} {key : StoreKey} {value : StoredValue}
    (h : w.Owns key value) {position : Nat} {m : Member} (hm : w.members[position]? = some m)
    (action : Action) (t : Store) :
    (w.putBack position m (m.registry.after action) t).Owns key value := by
  obtain ⟨i, n, kind, name, hn, hkey, hown⟩ := h
  by_cases hi : i = position
  · subst hi
    rw [hm] at hn
    cases hn
    refine ⟨i, ⟨m.registry.after action, m.store⟩, kind, name, ?_, ?_, ?_⟩
    · exact getElem?_set_of_some hm
    · rw [hkey]
      simp only [Registry.key, Registry.scope, Registry.number_after]
    · exact Registry.ownValue_after hown action
  · refine ⟨i, n, kind, name, ?_, hkey, hown⟩
    exact (List.getElem?_set_ne (Ne.symm hi)).trans hn

/-- **Values stay accounted for** in every event that brings none in from outside. -/
theorem Moves.accounted {w w' : Workspace} {event : Event} (h : w.Moves event w')
    (hdrop : event.writesNothing) (hacc : w.Accounted) : w'.Accounted := by
  cases h with
  | stay => exact hacc
  | openStore =>
    intro position s hs key value hvalue
    rcases getElem?_append_singleton hs with hs | ⟨-, rfl⟩
    · exact hacc hs hvalue
    · rw [Store.get?_new] at hvalue
      cases hvalue
  | openRegistry =>
    intro position s hs key value hvalue
    obtain ⟨i, m, kind, name, hm, hkey, hown⟩ := hacc hs hvalue
    refine ⟨i, m, kind, name, ?_, hkey, hown⟩
    exact getElem?_append_of_some hm
  | share => exact hacc
  | @ask handle position m s t action hh hm hs hleaves =>
    intro position' s' hs' key value hvalue
    rw [putBack, List.getElem?_set] at hs'
    split at hs'
    · split at hs'
      · cases hs'
        rcases hleaves.get?_eq_some hvalue with hold | ⟨kind, name, hkey, hown⟩
        · exact (hacc hs hold).putBack hm action t
        · exact Owns.putBack ⟨position, m, kind, name, hm, hkey, hown⟩ hm action t
      · cases hs'
    · exact (hacc hs' hvalue).putBack hm action t
  | @change position s change hs =>
    intro position' s' hs' key value hvalue
    rw [List.getElem?_set] at hs'
    split at hs'
    · split at hs'
      · cases hs'
        exact hacc hs (get?_apply_of_writesNothing hdrop hvalue)
      · cases hs'
    · exact hacc hs' hvalue

theorem accounted_run {events : List Event} (hdrop : ∀ event ∈ events, event.writesNothing)
    (hfew : events.countP Event.opensRegistry < 2 ^ 64) : (empty.run events).2.Accounted :=
  run_induction (fun _ _ hallowed hmoves hacc => hmoves.accounted hallowed hacc) events
    wellFormed_empty (by rwa [show empty.members.length = 0 from rfl, Nat.zero_add]) hdrop
    accounted_empty

/-! ## 2. Workspaces that differ in their stores only -/

/-- The same event where stores keep nothing. -/
def Event.discarding : Event → Event
  | .openStore _ => .openStore .discarding
  | event => event

theorem Event.writesNothing_discarding (event : Event) :
    event.discarding.writesNothing = event.writesNothing := by
  cases event <;> rfl

/-- Workspaces with the same registries, stores set aside. -/
structure Alike (w v : Workspace) : Prop where
  handles_eq : w.handles = v.handles
  members_eq : w.members = v.members
  length_stores_eq : w.stores.length = v.stores.length

/-- A change of a store has no answer and leaves everything else as it was. -/
theorem step_change_alike (w : Workspace) (position : Nat) (change : StoreChange) :
    (w.step (.change position change)).1.answer? = none ∧
      (w.step (.change position change)).2.Alike w := by
  cases hs : w.stores[position]? with
  | none =>
    simp only [step, onStore, hs]
    exact ⟨rfl, rfl, rfl, rfl⟩
  | some s =>
    refine ⟨?_, ?_⟩
    · simp only [step, onStore, hs]
      rfl
    · rw [step_change hs]
      exact ⟨rfl, rfl, List.length_set⟩

/-- **One event, answered alike.**  Both workspaces give the plain answer. -/
theorem Alike.step {w v : Workspace} (h : w.Alike v) (hw : w.WellFormed) (hv : v.WellFormed)
    (hwacc : w.Accounted) (hvacc : v.Accounted) (hfew : w.members.length < 2 ^ 64)
    (event : Event) :
    (w.step event).1.answer? = (v.step event.discarding).1.answer? ∧
      (w.step event).2.Alike (v.step event.discarding).2 := by
  obtain ⟨hhandles, hmembers, hstores⟩ := h
  cases event with
  | openStore kind =>
    refine ⟨rfl, hhandles, hmembers, ?_⟩
    simp [Event.discarding, Workspace.step, openStore, hstores]
  | openRegistry store =>
    simp only [Event.discarding, Workspace.step, hstores]
    split
    · refine ⟨rfl, ?_, ?_, hstores⟩
      · simp only [openRegistry, hhandles, hmembers]
      · simp only [openRegistry, nextNumber, hmembers]
    · exact ⟨rfl, hhandles, hmembers, hstores⟩
  | share handle =>
    simp only [Event.discarding, Workspace.step, hhandles]
    cases v.handles[handle]? with
    | none => exact ⟨rfl, hhandles, hmembers, hstores⟩
    | some position => exact ⟨rfl, by simp only [share, hhandles], hmembers, hstores⟩
  | ask handle action =>
    have hsame : (Event.ask handle action).discarding = .ask handle action := rfl
    cases hh : v.handles[handle]? with
    | none =>
      rw [hsame, step_ask_of_none hh, step_ask_of_none (hhandles ▸ hh)]
      exact ⟨rfl, hhandles, hmembers, hstores⟩
    | some position =>
      obtain ⟨m, hm⟩ := hv.exists_member hh
      have hh' : w.handles[handle]? = some position := hhandles ▸ hh
      have hm' : w.members[position]? = some m := hmembers ▸ hm
      obtain ⟨s, hs⟩ := hw.exists_store hm'
      obtain ⟨t, ht⟩ := hv.exists_store hm
      have hplain := m.registry.answer_perform action (.start s) fun topic _ =>
        hwacc.truthful hw hfew hs hm' topic.1 topic.2
      have hplain' := m.registry.answer_perform action (.start t) fun topic _ =>
        hvacc.truthful hv (hmembers ▸ hfew) ht hm topic.1 topic.2
      rw [hsame, step_ask hh' hm' hs, step_ask hh hm ht]
      refine ⟨congrArg some (hplain.trans hplain'.symm), hhandles, ?_, ?_⟩
      · simp only [putBack, hmembers]
      · simp only [putBack, List.length_set, hstores]
  | change position change =>
    obtain ⟨hnone, halike⟩ := w.step_change_alike position change
    obtain ⟨hnone', halike'⟩ := v.step_change_alike position change
    exact ⟨hnone.trans hnone'.symm,
      halike.handles_eq.trans (hhandles.trans halike'.handles_eq.symm),
      halike.members_eq.trans (hmembers.trans halike'.members_eq.symm),
      halike.length_stores_eq.trans (hstores.trans halike'.length_stores_eq.symm)⟩

/-- **A whole course, answered alike.** -/
theorem Alike.run : ∀ (events : List Event) {w v : Workspace}, w.Alike v → w.WellFormed →
    v.WellFormed → w.Accounted → v.Accounted →
    w.members.length + events.countP Event.opensRegistry < 2 ^ 64 →
    (∀ event ∈ events, event.writesNothing) →
    (w.run events).1.map Outcome.answer?
      = (v.run (events.map Event.discarding)).1.map Outcome.answer?
  | [], _, _, _, _, _, _, _, _, _ => rfl
  | event :: rest, w, v, h, hw, hv, hwacc, hvacc, hfew, hdrop => by
    obtain ⟨hanswer, hnext⟩ := h.step hw hv hwacc hvacc (by omega) event
    have hmoves := moves_step hw event
    have hmoves' := moves_step hv event.discarding
    have hdropped : event.writesNothing := hdrop event List.mem_cons_self
    have hdropped' : event.discarding.writesNothing := by
      rw [Event.writesNothing_discarding]
      exact hdropped
    have hlen := hmoves.length_members.2
    rw [List.countP_cons] at hfew
    have hrest : (w.step event).2.members.length + rest.countP Event.opensRegistry < 2 ^ 64 := by
      omega
    have hanswers := Alike.run rest hnext (hmoves.wellFormed hw) (hmoves'.wellFormed hv)
      (hmoves.accounted hdropped hwacc) (hmoves'.accounted hdropped' hvacc) hrest
      fun other hother => hdrop other (List.mem_cons_of_mem _ hother)
    simp only [Workspace.run, List.map_cons]
    rw [hanswer, hanswers]

/-! ## 3. Transparency -/

/-- **Stores never change an answer.**  Take any course of events from the beginning: stores of
every kind are opened, registries are opened on them and share them, handles are copied, anything
is asked, and entries are dropped from outside, but none is written.  While fewer than `2 ^ 64`
registries are opened, every answer, a fault as much as a result, is the one of the same course
on stores that keep nothing; and whenever a name is registered, each query about it gives what
the contract itself gives. -/
theorem run_answers_eq_discarding (events : List Event)
    (hdrop : ∀ event ∈ events, event.writesNothing)
    (hfew : events.countP Event.opensRegistry < 2 ^ 64) :
    (empty.run events).1.map Outcome.answer?
        = (empty.run (events.map Event.discarding)).1.map Outcome.answer? ∧
      ∀ (handle : Nat) (name : String) (c : Contract),
        (empty.run events).2.ask handle (.contract name) = some (.contract (some c)) →
          (empty.run events).2.AnswersAs handle name c := by
  have hw : (empty.run events).2.WellFormed := wellFormed_run events wellFormed_empty
  have hlen : (empty.run events).2.members.length < 2 ^ 64 := by
    have hle := length_members_run events wellFormed_empty
    rw [show empty.members.length = 0 from rfl] at hle
    omega
  constructor
  · exact Alike.run events ⟨rfl, rfl, rfl⟩ wellFormed_empty wellFormed_empty accounted_empty
      accounted_empty (by rwa [show empty.members.length = 0 from rfl, Nat.zero_add]) hdrop
  · intro handle name c hc
    obtain ⟨position, m, hh, hm, hfind⟩ := find?_of_ask_contract hw hc
    obtain ⟨s, hs⟩ := hw.exists_store hm
    exact answersAs_of_truthful hh hm hs hfind fun kind =>
      (accounted_run hdrop hfew).truthful hw hlen hs hm kind name

/-! ### One course

Two registries on one store, a copied handle, and a name that holds both separators of a key; the
store loses all its entries on the way. -/

/-- A contract whose name looks like a key. -/
def slashedContract : Contract :=
  ⟨"a/rules:b", ⟨[("id", .object []), ("age", .object [("type", .string "integer")])], by decide⟩,
    ["age"], "id"⟩

/-- Another contract of the same name, with a property that has no type. -/
def untypedContract : Contract :=
  ⟨"a/rules:b", ⟨[("size", .object [("minimum", .integer 3)])], by decide⟩, [], "id"⟩

def sharedCourse : List Event :=
  [.openStore .memory, .openRegistry 0, .openRegistry 0, .share 0,
    .ask 0 (.register slashedContract), .ask 1 (.register untypedContract),
    .ask 1 (.fields "a/rules:b"), .ask 1 (.rules "a/rules:b"), .ask 0 (.fields "a/rules:b"),
    .change 0 .clear, .ask 2 (.rules "a/rules:b"), .ask 2 .allRules]

theorem run_answers_eq_discarding_sharedCourse :
    (∀ event ∈ sharedCourse, event.writesNothing) ∧
      sharedCourse.countP Event.opensRegistry < 2 ^ 64 ∧
      (empty.run sharedCourse).2.ask 2 (.contract "a/rules:b")
        = some (.contract (some slashedContract)) ∧
      (empty.run sharedCourse).1.map Outcome.answer?
        = (empty.run (sharedCourse.map Event.discarding)).1.map Outcome.answer? ∧
      (empty.run sharedCourse).2.AnswersAs 2 "a/rules:b" slashedContract := by
  have hdrop : ∀ event ∈ sharedCourse, event.writesNothing := by decide
  have hfew : sharedCourse.countP Event.opensRegistry < 2 ^ 64 := by decide
  have hfound : (empty.run sharedCourse).2.ask 2 (.contract "a/rules:b")
      = some (.contract (some slashedContract)) := by decide +kernel
  obtain ⟨hsame, hown⟩ := run_answers_eq_discarding sharedCourse hdrop hfew
  exact ⟨hdrop, hfew, hfound, hsame, hown 2 "a/rules:b" slashedContract hfound⟩

end Workspace

end FieldRules

/-
# The log of a shared store

Registries share one store that keeps what it is given, and nobody else uses it.  The log of all
calls on the store then shows that each answer is computed once: between two writes under one key
the store was flushed, and no value is fetched unless the store has just said that it is there.
Single queries show that only answers are written, each by the registry it belongs to and under
the key made for it, and that a fault leaves no trace (`log_thrifty`).

What carries this is that the store stays faithful to all of its registries
(`Accounted.faithful`), whatever order they are used in: nothing stands under the keys of a
contract that has not come in, and what stands under a key can be read.  Each event makes thrifty
calls (`Sharing.step`), and so does a course of events (`Sharing.run`).
-/
import FieldRules.Proofs.Registry.Calls
import FieldRules.Proofs.Workspace.Interference
import FieldRules.Proofs.Workspace.Transparency

namespace FieldRules

namespace Workspace

/-! ## 1. Logs -/

/-- Whether an event is done with registries and their handles, and not with a store. -/
def Event.usesRegistries : Event → Bool
  | .openStore _ => false
  | .change _ _ => false
  | _ => true

/-- The calls of an outcome. -/
def Outcome.calls : Outcome → List Call
  | .answered _ calls => calls
  | .changed _ calls => calls
  | _ => []

/-- The calls that a course of events makes on the stores, one after the other. -/
def log (w : Workspace) (events : List Event) : List Call :=
  (w.run events).1.flatMap Outcome.calls

/-- The workspace with an empty store that keeps what it is given. -/
def shared : Workspace := empty.openStore .memory

theorem log_cons (w : Workspace) (event : Event) (rest : List Event) :
    w.log (event :: rest) = (w.step event).1.calls ++ (w.step event).2.log rest := rfl

theorem Event.writesNothing_of_usesRegistries {event : Event} (h : event.usesRegistries) :
    event.writesNothing := by
  cases event with
  | change => cases h
  | _ => rfl

/-- Where nothing is done to a store, no key is in danger. -/
theorem Event.sparesKeys_of_usesRegistries {event : Event} (h : event.usesRegistries)
    (store number : Nat) (name : String) : event.SparesKeys store number name := by
  rintro key value rfl
  cases h

/-! ## 2. One store for all -/

/-- There is one store, which keeps what it is given, and its values can be accounted for. -/
structure Sharing (w : Workspace) (s : Store) : Prop where
  stores_eq : w.stores = [s]
  kind_eq : s.kind = .memory
  wellFormed : w.WellFormed
  accounted : w.Accounted

theorem sharing_shared : shared.Sharing (.new .memory) := by
  have hmoves : empty.Moves (.openStore .memory) shared := .openStore
  exact ⟨rfl, rfl, hmoves.wellFormed wellFormed_empty, hmoves.accounted rfl accounted_empty⟩

namespace Sharing

variable {w : Workspace} {s : Store} {position : Nat} {m : Member}

/-- Every registry uses the store. -/
theorem store_eq (h : w.Sharing s) (hm : w.members[position]? = some m) : m.store = 0 := by
  have hlt := h.wellFormed.store_lt hm
  rw [h.stores_eq] at hlt
  exact Nat.lt_one_iff.mp hlt

theorem getElem?_stores (h : w.Sharing s) (hm : w.members[position]? = some m) :
    w.stores[m.store]? = some s := by
  rw [h.store_eq hm, h.stores_eq]
  rfl

theorem faithful (h : w.Sharing s) (hfew : w.members.length < 2 ^ 64)
    (hm : w.members[position]? = some m) : s.Faithful m.registry :=
  h.accounted.faithful h.wellFormed hfew (h.getElem?_stores hm) hm

/-- What remains to be said of an event: what becomes of the store. -/
theorem of_step (h : w.Sharing s) {event : Event} (huses : event.usesRegistries) {t : Store}
    (hstores : (w.step event).2.stores = [t]) (hkind : t.kind = .memory) :
    (w.step event).2.Sharing t := by
  have hmoves := moves_step h.wellFormed event
  exact ⟨hstores, hkind, hmoves.wellFormed h.wellFormed,
    hmoves.accounted (Event.writesNothing_of_usesRegistries huses) h.accounted⟩

/-- **One event** makes thrifty calls, and only a flush clears the store. -/
theorem step (h : w.Sharing s) (hfew : w.members.length < 2 ^ 64) (event : Event)
    (huses : event.usesRegistries) : ∃ t, (w.step event).2.Sharing t ∧
      s.Thrifty (∃ handle, event = .ask handle .flush) none (w.step event).1.calls t := by
  -- where no registry acts there are no calls
  have hstay : (w.step event).2.stores = w.stores → (w.step event).1.calls = [] →
      ∃ t, (w.step event).2.Sharing t ∧
        s.Thrifty (∃ handle, event = .ask handle .flush) none (w.step event).1.calls t := by
    intro hstores hcalls
    refine ⟨s, h.of_step huses (hstores.trans h.stores_eq) h.kind_eq, ?_⟩
    rw [hcalls]
    exact .nil
  cases event with
  | openStore => cases huses
  | change => cases huses
  | openRegistry store =>
    apply hstay <;> simp only [Workspace.step] <;> split <;> rfl
  | share handle =>
    apply hstay <;> simp only [Workspace.step] <;> split <;> rfl
  | ask handle action =>
    cases hh : w.handles[handle]? with
    | none =>
      have hstep := step_ask_of_none hh action
      exact hstay (by rw [hstep]) (by rw [hstep]; rfl)
    | some position =>
      obtain ⟨m, hm⟩ := h.wellFormed.exists_member hh
      have hs := h.getElem?_stores hm
      obtain ⟨calls, hcalls, hthrifty⟩ := m.registry.thrifty_perform action (.start s) h.kind_eq
        (h.faithful hfew hm)
      have hstep := step_ask hh hm hs action
      refine ⟨((m.registry.perform action).run (.start s)).2.store, h.of_step huses ?_ ?_, ?_⟩
      · rw [hstep, putBack, h.store_eq hm, h.stores_eq]
        rfl
      · exact hthrifty.kind_eq.trans h.kind_eq
      · rw [hstep]
        simp only [Outcome.calls]
        rw [hcalls]
        exact hthrifty.mono fun hflush => ⟨handle, by rw [hflush]⟩

/-- **A course of events** makes thrifty calls, one after the other. -/
theorem run (events : List Event) (h : w.Sharing s)
    (hfew : w.members.length + events.countP Event.opensRegistry < 2 ^ 64)
    (huses : ∀ event ∈ events, event.usesRegistries) :
    ∃ t, (w.run events).2.Sharing t ∧ s.Thrifty True none (w.log events) t := by
  induction events generalizing w s with
  | nil => exact ⟨s, h, .nil⟩
  | cons event rest ih =>
    obtain ⟨hfirst, hrest⟩ := List.forall_mem_cons.mp huses
    have hlen := (moves_step h.wellFormed event).length_members.2
    rw [List.countP_cons] at hfew
    obtain ⟨u, hu, hcalls⟩ := h.step (by omega) event hfirst
    obtain ⟨t, ht, hothers⟩ := ih hu (by omega) hrest
    refine ⟨t, ht, ?_⟩
    rw [log_cons]
    exact (hcalls.mono fun _ => trivial).append hothers

/-- **A query** is answered plainly, and the law of its calls says what it does to the store. -/
theorem step_query (h : w.Sharing s) (hfew : w.members.length < 2 ^ 64) {handle : Nat}
    (hh : w.handles[handle]? = some position) (hm : w.members[position]? = some m)
    {kind : AnswerKind} {name : String} {action : Action}
    (hquery : action.query? = some (kind, name)) : ∃ answer calls t,
    w.step (.ask handle action) = (.answered answer calls, { w with stores := [t] }) ∧
      m.registry.Inquires kind name s answer.fault? calls t ∧
      answer.fault? = fault? (m.registry.ownValue kind name) := by
  have hfaithful := h.faithful hfew hm
  have hplain := m.registry.answer_perform action (.start s) fun topic _ =>
    hfaithful.truthful topic.1 topic.2
  obtain ⟨calls, t, hrun, hinquires⟩ :=
    Registry.inquires_perform hquery (.start s) h.kind_eq hfaithful
  rw [hplain] at hinquires
  refine ⟨m.registry.plainAnswer action, calls, t, ?_, hinquires,
    m.registry.fault?_plainAnswer hquery⟩
  rw [step_ask hh hm (h.getElem?_stores hm), Registry.after_of_query? m.registry hquery,
    putBack_self hm, hplain, hrun, h.store_eq hm, h.stores_eq]
  rfl

theorem settled (h : w.Sharing s) (hfew : w.members.length < 2 ^ 64) {handle : Nat} {c : Contract}
    (hh : w.handles[handle]? = some position) (hm : w.members[position]? = some m)
    (hc : m.registry.catalogue.find? c.name = some c) :
    Settled handle position m.store m.registry.number c w :=
  ⟨hh, m.registry, s, hm, rfl, hc, h.getElem?_stores hm, fun kind =>
    (h.faithful hfew hm).truthful kind c.name⟩

end Sharing

/-- A query about a settled contract ends in the fault of the answer that it asks for. -/
theorem Settled.fault?_ask {w : Workspace} {handle position store number : Nat} {c : Contract}
    (h : Settled handle position store number c w) {other : Nat}
    (hother : w.handles[other]? = w.handles[handle]?) {kind : AnswerKind} {action : Action}
    (hquery : action.query? = some (kind, c.name)) : ∃ answer, w.ask other action = some answer ∧
      answer.fault? = (fault? (c.value kind)).map QueryFault.untyped := by
  obtain ⟨hh, r, s, hm, -, hc, hs, htrue⟩ := h
  have htopics := r.topics_of_query? hquery
  refine ⟨_, ask_of_topic (hother.trans hh) hm hs (htrue kind) htopics, ?_⟩
  rw [r.fault?_plainAnswer hquery, Registry.ownValue, Registry.own_of_find? hc, fault?_mapError]

/-- **A contract that does not compile never will**: what its registry says about it once, it says
ever after. -/
theorem Sharing.fault?_run {w : Workspace} {s : Store} (h : w.Sharing s) (events : List Event)
    (hfew : w.members.length + events.countP Event.opensRegistry < 2 ^ 64)
    (huses : ∀ event ∈ events, event.usesRegistries) {handle other position : Nat} {m : Member}
    (hh : w.handles[handle]? = some position) (hm : w.members[position]? = some m)
    {kind : AnswerKind} {name : String} {failure : UntypedProperty}
    (hfault : fault? (m.registry.ownValue kind name) = some (.untyped failure))
    (hother : (w.run events).2.handles[other]? = (w.run events).2.handles[handle]?)
    {action : Action} (hquery : action.query? = some (kind, name)) :
    ∃ answer, (w.run events).2.ask other action = some answer ∧
      answer.fault? = some (.untyped failure) := by
  obtain ⟨c, hc⟩ := Registry.find?_of_untyped hfault
  obtain ⟨-, rfl⟩ := Catalogue.of_find? hc
  have hsettled := settled_run events h.wellFormed hfew
    (fun event hevent => Event.sparesKeys_of_usesRegistries (huses event hevent) _ _ _)
    (h.settled (by omega) hh hm hc)
  obtain ⟨answer, hask, hsame⟩ := hsettled.fault?_ask hother hquery
  rw [Registry.ownValue, Registry.own_of_find? hc, fault?_mapError] at hfault
  exact ⟨answer, hask, hsame.trans hfault⟩

/-! ## 3. The log -/

/-- **Each answer is computed once, and faults are never stored.**  Registries are opened on one
empty store that keeps what it is given, handles are copied, and anything is asked, in any order;
nothing else is done to the store.

Between two writes under one key the store was cleared, and a value is fetched only directly after
the store has said that it is there; nothing but a flush clears the store.  A query about a
contract changes the store by a write under the key that its own registry has for its kind and its
name, and every other key has what it had.  If it ends in a fault, it changes nothing; else there is
an answer under its key.  When a query has found that a contract does not compile, every later query
of its kind about the name says the same, through each handle of the registry. -/
theorem log_thrifty (events : List Event) (huses : ∀ event ∈ events, event.usesRegistries)
    (hfew : events.countP Event.opensRegistry < 2 ^ 64) :
    (∀ (key : StoreKey) (before between after : List Call),
      shared.log events = before ++ .set key :: (between ++ .set key :: after) →
        .clear ∈ between) ∧
    (∀ (key : StoreKey) (reply : Option AnswerKind) (before after : List Call),
      shared.log events = before ++ .get key reply :: after →
        ∃ earlier, before = earlier ++ [.has key true]) ∧
    (∀ event : Event, event.usesRegistries →
      .clear ∈ ((shared.run events).2.step event).1.calls →
        ∃ handle, event = .ask handle .flush) ∧
    ∀ (handle : Nat) (m : Member) (action : Action) (kind : AnswerKind) (name : String),
      (shared.run events).2.member? handle = some m → action.query? = some (kind, name) →
      ∃ answer calls s t, (shared.run events).2.stores = [s] ∧
        (shared.run events).2.step (.ask handle action)
          = (.answered answer calls, { (shared.run events).2 with stores := [t] }) ∧
        (∀ call ∈ calls, call.changes →
          call = .set (m.registry.key kind name) ∧ answer.fault? = none) ∧
        (∀ key, key ≠ m.registry.key kind name → t.get? key = s.get? key) ∧
        (∀ fault, answer.fault? = some fault → t = s) ∧
        (answer.fault? = none → t.get? (m.registry.key kind name) ≠ none) ∧
        ∀ failure, answer.fault? = some (.untyped failure) →
          ∀ more : List Event, (∀ event ∈ more, event.usesRegistries) →
            (events ++ more).countP Event.opensRegistry < 2 ^ 64 →
            ∀ (other : Nat) (again : Action),
              (shared.run (events ++ more)).2.handles[other]?
                = (shared.run (events ++ more)).2.handles[handle]? →
              again.query? = some (kind, name) →
              ∃ later, (shared.run (events ++ more)).2.ask other again = some later ∧
                later.fault? = some (.untyped failure) := by
  have hnone : shared.members.length = 0 := rfl
  obtain ⟨s, hsharing, hthrifty⟩ := sharing_shared.run events (by omega) huses
  have hlen := length_members_run events sharing_shared.wellFormed
  have hfew' : (shared.run events).2.members.length < 2 ^ 64 := by omega
  refine ⟨fun key before between after hlog => ?_, fun key reply before after hlog => ?_,
    fun event hevent hclear => ?_, fun handle m action kind name hm hquery => ?_⟩
  · rw [hlog] at hthrifty
    exact hthrifty.clear_mem rfl
  · rw [hlog] at hthrifty
    exact hthrifty.has_before_get
  · obtain ⟨t, -, hcalls⟩ := hsharing.step hfew' event hevent
    exact hcalls.flushing_of_clear_mem hclear
  · obtain ⟨position, hh, hmember⟩ := Option.bind_eq_some_iff.mp hm
    obtain ⟨answer, calls, t, hstep, hinquires, hplain⟩ :=
      hsharing.step_query hfew' hh hmember hquery
    refine ⟨answer, calls, s, t, hsharing.stores_eq, hstep,
      fun call hcall hchanges => hinquires.eq_set_of_changes hcall hchanges,
      fun key hne => hinquires.get?_of_ne hne, fun fault hfault => ?_, fun hfault => ?_,
      fun failure hfault more hmore hfewAll other again hother hagain => ?_⟩
    · rw [hfault] at hinquires
      exact hinquires.store_eq_of_fault
    · rw [hfault] at hinquires
      exact hinquires.get?_ne_none hsharing.kind_eq
    · rw [List.countP_append] at hfewAll
      rw [snd_run_append] at hother ⊢
      exact hsharing.fault?_run more (by omega) hmore hh hmember (hplain.symm.trans hfault) hother
        hagain

/-! ### One course

The rules of `full` are asked for three times with a flush in between, so they are written twice.
The contract `half` does not compile; it is asked about through two handles of its registry, before
and after a flush. -/

def countedCourse : List Event :=
  [.openRegistry 0, .openRegistry 0, .share 0, .ask 0 (.register Registry.halfContract),
    .ask 1 (.register Registry.fullContract), .ask 1 (.rules "full"), .ask 0 .flush,
    .ask 1 .allRules, .ask 1 (.optionalRules "full")]

/-- The key of the rules of `full`. -/
def fullKey : StoreKey := keyOfNumber 2 .rules "full"

/-- The log of that course up to the first write, -/
def firstCalls : List Call :=
  [.delete (keyOfNumber 1 .fields "half") false, .delete (keyOfNumber 1 .rules "half") false,
    .delete (keyOfNumber 2 .fields "full") false, .delete fullKey false, .has fullKey false]

/-- up to the second, -/
def flushCalls : List Call := [.clear, .has fullKey false]

/-- and to its end. -/
def lastCalls : List Call := [.has fullKey true, .get fullKey (some .rules)]

theorem log_thrifty_countedCourse :
    (∀ event ∈ countedCourse, event.usesRegistries) ∧
      shared.log countedCourse
        = firstCalls ++ Call.set fullKey :: (flushCalls ++ Call.set fullKey :: lastCalls) ∧
      Call.clear ∈ flushCalls ∧
      (shared.run countedCourse).2.ask 0 (.rules "half")
        = some (.rules (.error (.untyped ⟨"size", .property "size"⟩))) ∧
      ((shared.run countedCourse).2.step (.ask 0 (.rules "half"))).2.stores
        = (shared.run countedCourse).2.stores ∧
      ∃ later, (shared.run (countedCourse ++ [.ask 1 .flush])).2.ask 2 (.optionalRules "half")
          = some later ∧
        later.fault? = some (.untyped ⟨"size", .property "size"⟩) := by
  have huses : ∀ event ∈ countedCourse, event.usesRegistries := by decide
  have hlog : shared.log countedCourse
      = firstCalls ++ Call.set fullKey :: (flushCalls ++ Call.set fullKey :: lastCalls) := by
    decide +kernel
  have hm : (shared.run countedCourse).2.member? 0
      = some ⟨⟨1, Catalogue.empty.insert Registry.halfContract⟩, 0⟩ := by
    decide +kernel
  have hask : (shared.run countedCourse).2.ask 0 (.rules "half")
      = some (.rules (.error (.untyped ⟨"size", .property "size"⟩))) := by
    decide +kernel
  obtain ⟨hset, -, -, hquery⟩ := log_thrifty countedCourse huses (by decide)
  obtain ⟨answer, calls, s, t, hs, hstep, -, -, hfault, -, hlater⟩ :=
    hquery 0 _ (.rules "half") .rules "half" hm rfl
  -- the answer is known, because it can be worked out
  have hanswer : (shared.run countedCourse).2.ask 0 (.rules "half") = some answer := by
    rw [ask, hstep]
    rfl
  cases hask.symm.trans hanswer
  refine ⟨huses, hlog, hset _ _ _ _ hlog, hask, ?_, ?_⟩
  · rw [hstep, hs, hfault _ rfl]
  · exact hlater _ rfl [.ask 1 .flush] (by decide) (by decide) 2 (.optionalRules "half")
      (by decide +kernel) rfl

end Workspace

end FieldRules

/-
# Registering, once and for all

A registry takes each name once.  A contract whose name it has taken before is turned away, and
then nothing happens at all: no store is even asked.  Any other contract comes in, the registry's
two keys of its name are cleared, and that is all that happens (`registration_exact`), whatever
stands in the stores and whoever else uses them.

What has come in is followed through a course of events by its answers alone: an event brings a
contract to a registry if it registers the contract through one of the registry's handles and is
answered that it has come in (`Workspace.arrival?`).  One step adds what it brings and changes no
other contract; so by induction the catalogue at the end of a course is what has arrived in it
(`contracts_perm_arrivals`).  Later events only add to that list, so a contract stays where it is.
-/
import FieldRules.Proofs.Catalogue.Names
import FieldRules.Proofs.Workspace.Steps

namespace FieldRules

namespace Workspace

/-! ## 1. What arrives in one event -/

/-- The contract that an event brings to the registry at a position: it is registered through a
handle of that registry, and the answer is that it has come in. -/
def arrival? (w : Workspace) (position : Nat) : Event → Option Contract
  | .ask handle (.register c) =>
    if w.handles[handle]? = some position ∧ w.ask handle (.register c) = some (.registered none)
    then some c
    else none
  | _ => none

/-- The contracts at a position; none before there is a registry. -/
def catalogueAt (w : Workspace) (position : Nat) : Catalogue :=
  (w.members[position]?.map fun m => m.registry.catalogue).getD .empty

theorem catalogueAt_of_some {w : Workspace} {position : Nat} {m : Member}
    (hm : w.members[position]? = some m) : w.catalogueAt position = m.registry.catalogue := by
  rw [catalogueAt, hm]
  rfl

/-- A registry that is opened is empty, as its position was before. -/
theorem catalogueAt_openRegistry (w : Workspace) (store position : Nat) :
    (w.openRegistry store).catalogueAt position = w.catalogueAt position := by
  simp only [catalogueAt, openRegistry]
  rcases Nat.lt_trichotomy position w.members.length with hlt | rfl | hgt
  · rw [List.getElem?_append_left hlt]
  · simp [Registry.new]
  · rw [List.getElem?_eq_none (by simp; omega), List.getElem?_eq_none (by omega)]

theorem catalogueAt_putBack {w : Workspace} {other : Nat} {m : Member}
    (hm : w.members[other]? = some m) (registry : Registry) (t : Store) (position : Nat) :
    (w.putBack other m registry t).catalogueAt position
      = if other = position then registry.catalogue else w.catalogueAt position := by
  simp only [catalogueAt, putBack]
  split
  · rename_i heq
    subst heq
    rw [getElem?_set_of_some hm]
    rfl
  · rename_i hne
    rw [List.getElem?_set_ne hne]

theorem arrival?_eq_some_iff {w : Workspace} {position : Nat} {event : Event} {c : Contract} :
    w.arrival? position event = some c ↔ ∃ handle, event = .ask handle (.register c) ∧
      w.handles[handle]? = some position ∧
      w.ask handle (.register c) = some (.registered none) := by
  constructor
  · intro h
    unfold arrival? at h
    split at h
    · rename_i handle d
      split at h
      · rename_i harrives
        cases h
        exact ⟨handle, rfl, harrives⟩
      · cases h
    · cases h
  · rintro ⟨handle, rfl, harrives⟩
    rw [arrival?, if_pos harrives]

/-- **What arrives was not there, and is there afterwards.** -/
theorem catalogueAt_step_of_arrival {w : Workspace} (hw : w.WellFormed) {position : Nat}
    {event : Event} {c : Contract} (h : w.arrival? position event = some c) :
    ¬(w.catalogueAt position).Has c.name ∧
      (w.step event).2.catalogueAt position = (w.catalogueAt position).insert c := by
  obtain ⟨handle, rfl, hh, hask⟩ := arrival?_eq_some_iff.mp h
  obtain ⟨m, hm⟩ := hw.exists_member hh
  obtain ⟨s, hs⟩ := hw.exists_store hm
  by_cases htaken : (m.registry.catalogue.find? c.name).isSome
  · rw [ask, step_register_of_taken hh hm hs htaken] at hask
    cases hask
  · obtain ⟨calls, t, hstep, -⟩ := step_register_of_new hh hm hs htaken
    rw [hstep, catalogueAt_putBack hm, if_pos rfl, catalogueAt_of_some hm, Catalogue.has_iff]
    exact ⟨htaken, rfl⟩

/-- **Where nothing arrives nothing changes.** -/
theorem Moves.catalogueAt_eq {w w' : Workspace} {event : Event} (hmoves : w.Moves event w')
    {position : Nat} (h : w.arrival? position event = none) :
    w'.catalogueAt position = w.catalogueAt position := by
  cases hmoves with
  | stay => rfl
  | openStore => rfl
  | openRegistry => exact catalogueAt_openRegistry ..
  | share => rfl
  | change => rfl
  | @ask handle other m s t action hh hm hs hleaves =>
    rw [catalogueAt_putBack hm]
    split
    · rename_i heq
      subst heq
      rw [catalogueAt_of_some hm]
      cases action with
      | register c =>
        by_cases htaken : (m.registry.catalogue.find? c.name).isSome
        · rw [Registry.after_register_of_taken htaken]
        · -- a contract of a new name would have arrived
          obtain ⟨calls, t', hstep, -⟩ := step_register_of_new hh hm hs htaken
          have harrives := arrival?_eq_some_iff.mpr
            ⟨handle, rfl, hh, congrArg (fun moved => moved.1.answer?) hstep⟩
          rw [h] at harrives
          cases harrives
      | _ => rfl
    · rfl

/-! ## 2. What arrives in a course of events -/

/-- The contracts that a course of events brings to the registry at a position, in the order in
which they come in. -/
def arrivals (position : Nat) : Workspace → List Event → List Contract
  | _, [] => []
  | w, event :: rest =>
    (w.arrival? position event).toList ++ arrivals position (w.step event).2 rest

theorem arrivals_append (position : Nat) : ∀ (first second : List Event) (w : Workspace),
    arrivals position w (first ++ second)
      = arrivals position w first ++ arrivals position (w.run first).2 second
  | [], _, _ => rfl
  | event :: rest, second, w => by
    rw [List.cons_append, arrivals, arrivals, arrivals_append position rest second,
      List.append_assoc]
    rfl

/-- **A catalogue holds what was there and what has arrived.** -/
theorem contracts_perm_arrivals (position : Nat) : ∀ (events : List Event) {w : Workspace},
    w.WellFormed → ((w.run events).2.catalogueAt position).contracts.Perm
      ((w.catalogueAt position).contracts ++ arrivals position w events)
  | [], w, _ => by
    rw [arrivals, List.append_nil]
    exact .refl _
  | event :: rest, w, hw => by
    have hmoves := moves_step hw event
    have hrest := contracts_perm_arrivals position rest (hmoves.wellFormed hw)
    rw [arrivals]
    cases harrival : w.arrival? position event with
    | none =>
      rw [hmoves.catalogueAt_eq harrival] at hrest
      exact hrest
    | some c =>
      obtain ⟨hnew, hinsert⟩ := catalogueAt_step_of_arrival hw harrival
      rw [hinsert] at hrest
      have hbrought : (((w.catalogueAt position).insert c).contracts
            ++ arrivals position (w.step event).2 rest).Perm
          (c :: (w.catalogueAt position).contracts ++ arrivals position (w.step event).2 rest) :=
        (Catalogue.contracts_insert_of_new hnew).append_right _
      exact (hrest.trans hbrought).trans List.perm_middle.symm

/-- A handle leads to the same registry for ever. -/
theorem Moves.handle_eq {w w' : Workspace} {event : Event} (hmoves : w.Moves event w')
    {handle position : Nat} (hh : w.handles[handle]? = some position) :
    w'.handles[handle]? = some position := by
  cases hmoves with
  | openRegistry => exact getElem?_append_of_some hh
  | share => exact getElem?_append_of_some hh
  | _ => exact hh

theorem handle_run : ∀ (events : List Event) {w : Workspace}, w.WellFormed →
    ∀ {handle position : Nat}, w.handles[handle]? = some position →
      (w.run events).2.handles[handle]? = some position
  | [], _, _, _, _, hh => hh
  | event :: rest, _, hw, _, _, hh =>
    have hmoves := moves_step hw event
    handle_run rest (hmoves.wellFormed hw) (hmoves.handle_eq hh)

/-- In a course from the beginning the registry at a position has what has arrived there. -/
theorem perm_arrivals {events : List Event} {position : Nat} {m : Member}
    (hm : (empty.run events).2.members[position]? = some m) :
    m.registry.catalogue.contracts.Perm (arrivals position empty events) := by
  have hperm := contracts_perm_arrivals position events wellFormed_empty
  rwa [catalogueAt_of_some hm] at hperm

/-- So a contract is found if it has arrived. -/
theorem ask_contract_run {events : List Event} {handle position : Nat}
    (hh : (empty.run events).2.handles[handle]? = some position) (name : String) :
    (empty.run events).2.ask handle (.contract name)
      = some (.contract ((arrivals position empty events).find? fun c => c.name = name)) := by
  have hw : (empty.run events).2.WellFormed := wellFormed_run events wellFormed_empty
  obtain ⟨m, hm⟩ := hw.exists_member hh
  obtain ⟨s, hs⟩ := hw.exists_store hm
  have hplain : (empty.run events).2.ask handle (.contract name)
      = some (m.registry.plainAnswer (.contract name)) :=
    ask_of_no_topics hh hm hs rfl
  rw [hplain, Registry.plainAnswer, Catalogue.find?_eq_of_perm (perm_arrivals hm)]

/-! ## 3. Registration -/

/-- **Registering is exact and for ever.**  Take any course of events from the beginning and a
handle of a registry at its end.  A contract whose name has arrived there is turned away, no call
is made on a store and the workspace stays as it is.  Every other contract comes in: the registry
gets it and no other, the answers of the registry about the name go from its store and nothing
else does, and nothing else in the workspace changes.  So what was there about other names and
outside every scope stays, and, while fewer than `2 ^ 64` registries are opened, all that any
other registry finds.

The names of the registry are those of the contracts that have arrived, in strictly increasing
order, and its size counts them.  A contract that is found under a name is the first that has
arrived there, and is found there whatever comes after. -/
theorem registration_exact (events : List Event) (handle position : Nat)
    (hh : (empty.run events).2.handles[handle]? = some position) :
    ∃ m s, (empty.run events).2.members[position]? = some m ∧
      (empty.run events).2.stores[m.store]? = some s ∧
      (∀ c : Contract, c.name ∈ (arrivals position empty events).map Contract.name →
        (empty.run events).2.step (.ask handle (.register c))
          = (.answered (.registered (some (.duplicateName c.name))) [], (empty.run events).2)) ∧
      (∀ c : Contract, c.name ∉ (arrivals position empty events).map Contract.name →
        ∃ calls catalogue t,
          (empty.run events).2.step (.ask handle (.register c))
              = (.answered (.registered none) calls,
                  { (empty.run events).2 with
                    stores := (empty.run events).2.stores.set m.store t
                    members := (empty.run events).2.members.set position
                      ⟨⟨m.registry.number, catalogue⟩, m.store⟩ }) ∧
            catalogue.contracts.Perm (c :: m.registry.catalogue.contracts) ∧
            m.registry.Clears c.name s t ∧
            (∀ kind name, name ≠ c.name →
              t.get? (m.registry.key kind name) = s.get? (m.registry.key kind name)) ∧
            (∀ kind name, t.get? (.plain kind name) = s.get? (.plain kind name)) ∧
            (events.countP Event.opensRegistry < 2 ^ 64 →
              ∀ other n, other ≠ position → (empty.run events).2.members[other]? = some n →
                ∀ kind name,
                  t.get? (n.registry.key kind name) = s.get? (n.registry.key kind name))) ∧
      (∃ names, (empty.run events).2.ask handle .names = some (.names names) ∧
        names.Pairwise (· < ·) ∧
        names.Perm ((arrivals position empty events).map Contract.name) ∧
        m.registry.catalogue.size = names.length ∧
        m.registry.catalogue.isEmpty = names.isEmpty) ∧
      ∀ name,
        (empty.run events).2.ask handle (.contract name)
          = some (.contract ((arrivals position empty events).find? fun c => c.name = name)) ∧
        ∀ c, (empty.run events).2.ask handle (.contract name) = some (.contract (some c)) →
          ∀ more, (empty.run (events ++ more)).2.ask handle (.contract name)
            = some (.contract (some c)) := by
  have hw : (empty.run events).2.WellFormed := wellFormed_run events wellFormed_empty
  obtain ⟨m, hm⟩ := hw.exists_member hh
  obtain ⟨s, hs⟩ := hw.exists_store hm
  have hperm := perm_arrivals hm
  have hnames : m.registry.catalogue.names.Perm
      ((arrivals position empty events).map Contract.name) := hperm.map _
  have htaken : ∀ c : Contract, (m.registry.catalogue.find? c.name).isSome ↔
      c.name ∈ (arrivals position empty events).map Contract.name := fun c => by
    rw [← Catalogue.has_iff, ← hnames.mem_iff]
    exact List.mem_map.symm
  refine ⟨m, s, hm, hs, fun c hc => ?_, fun c hc => ?_, ⟨m.registry.catalogue.names, ?_,
    m.registry.catalogue.increasing_names, hnames, ?_, ?_⟩, fun name => ⟨?_, fun c hc more => ?_⟩⟩
  · exact step_register_of_taken hh hm hs ((htaken c).mpr hc)
  · have hnew : ¬(m.registry.catalogue.find? c.name).isSome := fun h => hc ((htaken c).mp h)
    obtain ⟨calls, t, hstep, hclears⟩ := step_register_of_new hh hm hs hnew
    refine ⟨calls, m.registry.catalogue.insert c, t, hstep, ?_, hclears, fun kind name hne => ?_,
      hclears.get?_plain, fun hfew other n hother hn kind name => ?_⟩
    · rw [← Catalogue.has_iff] at hnew
      exact Catalogue.contracts_insert_of_new hnew
    · exact hclears.get?_of_name_ne hne kind
    · have hne : n.registry.number ≠ m.registry.number := fun heq =>
        hother (hw.position_eq (length_members_lt hfew) hn hm heq)
      exact hclears.get?_of_number_ne hne kind name
  · exact ask_of_no_topics hh hm hs rfl
  · exact (List.length_map _).symm
  · rw [Catalogue.isEmpty, Catalogue.names, List.isEmpty_map]
  · exact ask_contract_run hh name
  · rw [ask_contract_run hh] at hc
    have hlater : (empty.run (events ++ more)).2.handles[handle]? = some position := by
      rw [snd_run_append]
      exact handle_run more hw hh
    rw [ask_contract_run hlater, arrivals_append, List.find?_append,
      Answer.contract.inj (Option.some.inj hc), Option.some_or]

/-! ### One course

Two registries use one store, and the first has two handles.  Both are to have a contract named
`x`, and the first has one named `all:x` besides.  Someone has put entries into the store under
keys of both registries and under one outside every scope. -/

/-- A contract without properties. -/
def bareContract (name idField : String) : Contract := ⟨name, .empty, [], idField⟩

def registeringCourse : List Event :=
  [.openStore .memory, .openRegistry 0, .openRegistry 0, .share 0,
    .ask 2 (.register (bareContract "all:x" "id")), .ask 1 (.register (bareContract "x" "id")),
    .change 0 (.set ((Registry.new 1).key .fields "x") (.fields ["first"])),
    .change 0 (.set ((Registry.new 2).key .fields "x") (.fields ["second"])),
    .change 0 (.set (.plain .fields "x") (.fields ["plain"]))]

/-- The store at the end of that course. -/
def registeringStore : Store :=
  ⟨.memory, .ofList [(((Registry.new 1).key .fields "x").text, .fields ["first"]),
    (((Registry.new 2).key .fields "x").text, .fields ["second"]),
    ((StoreKey.plain .fields "x").text, .fields ["plain"])]⟩

theorem registration_exact_registeringCourse :
    (empty.run registeringCourse).2.handles[2]? = some 0 ∧
      (empty.run registeringCourse).2.step (.ask 2 (.register (bareContract "all:x" "key")))
        = (.answered (.registered (some (.duplicateName "all:x"))) [],
            (empty.run registeringCourse).2) ∧
      (∃ calls w t,
        (empty.run registeringCourse).2.step (.ask 2 (.register (bareContract "x" "id")))
            = (.answered (.registered none) calls, w) ∧
          w.stores = [t] ∧ t.get? ((Registry.new 1).key .fields "x") = none ∧
          t.get? ((Registry.new 2).key .fields "x") = some (.fields ["second"]) ∧
          t.get? (.plain .fields "x") = some (.fields ["plain"])) ∧
      (∃ names, (empty.run registeringCourse).2.ask 2 .names = some (.names names) ∧
        names.Perm ["all:x"]) ∧
      ∀ more, (empty.run (registeringCourse ++ more)).2.ask 2 (.contract "all:x")
        = some (.contract (some (bareContract "all:x" "id"))) := by
  have hh : (empty.run registeringCourse).2.handles[2]? = some 0 := by decide +kernel
  have harrivals : arrivals 0 empty registeringCourse = [bareContract "all:x" "id"] := by
    decide +kernel
  have hmember : (empty.run registeringCourse).2.members[0]?
      = some ⟨⟨1, Catalogue.empty.insert (bareContract "all:x" "id")⟩, 0⟩ := by
    decide +kernel
  have hother : (empty.run registeringCourse).2.members[1]?
      = some ⟨⟨2, Catalogue.empty.insert (bareContract "x" "id")⟩, 0⟩ := by
    decide +kernel
  have hstores : (empty.run registeringCourse).2.stores = [registeringStore] := by
    decide +kernel
  obtain ⟨m, s, hm, hs, hrefused, hcomes, ⟨names, hnames, -, hperm, -⟩, hfound⟩ :=
    registration_exact registeringCourse 2 0 hh
  rw [hmember] at hm
  cases hm
  rw [hstores] at hs
  cases hs
  rw [harrivals] at hrefused hcomes hperm hfound
  obtain ⟨calls, catalogue, t, hstep, -, hclears, -, hplain, hothers⟩ :=
    hcomes (bareContract "x" "id") (by decide)
  refine ⟨hh, hrefused (bareContract "all:x" "key") (by decide), ⟨calls, _, t, hstep, ?_,
    hclears.gone .fields, ?_, ?_⟩, ⟨names, hnames, hperm⟩, ?_⟩
  · rw [hstores]
    rfl
  · exact (hothers (by decide) 1 _ (by decide) hother .fields "x").trans (by decide +kernel)
  · exact (hplain .fields "x").trans (by decide +kernel)
  · exact (hfound "all:x").2 _ ((hfound "all:x").1.trans (by decide +kernel))

end Workspace

end FieldRules

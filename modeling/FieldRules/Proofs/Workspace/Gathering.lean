/-
# Every contract at once, in a course of events

In a course of events in which values come into stores from registries alone, a registry that is
asked for the rules of every contract gives the same answer in whatever order it works the
contracts off, and leaves the same in its store (`allRulesIn_any_order`).  The answer agrees with
what a check of every contract reports, although the one compiles whole contracts with the help of
the store and the other single properties without it.

The store is truthful about the registry (`Accounted.truthful`), so the answer is the one without
a store; and nothing stands under the key of a contract that does not compile, because every
value is accounted for and there is no own answer that could stand there.
-/
import FieldRules.Proofs.Registry.Gathering
import FieldRules.Proofs.Workspace.Transparency

namespace FieldRules

namespace Workspace

/-- Nothing that is accounted for stands under the key of a contract that does not compile. -/
theorem Accounted.get?_eq_none {w : Workspace} (h : w.Accounted) (hw : w.WellFormed)
    (hfew : w.members.length < 2 ^ 64) {position i : Nat} {s : Store} {m : Member}
    (hs : w.stores[position]? = some s) (hm : w.members[i]? = some m) {c : Contract}
    (hc : m.registry.catalogue.find? c.name = some c) (hfault : ¬c.Compiles) :
    s.get? (m.registry.key .rules c.name) = none := by
  cases hget : s.get? (m.registry.key .rules c.name) with
  | none => rfl
  | some value =>
    exact absurd (Registry.compiles_of_ownValue hc (h.faithful hw hfew hs hm hget)) hfault

/-- Whatever the order, the answer is the one without a store, and nothing but the store changes. -/
theorem Accounted.step_allRulesIn {w : Workspace} (h : w.Accounted) (hw : w.WellFormed)
    (hfew : w.members.length < 2 ^ 64) {handle position : Nat} {m : Member} {s : Store}
    (hh : w.handles[handle]? = some position) (hm : w.members[position]? = some m)
    (hs : w.stores[m.store]? = some s) {order : List String}
    (horder : order.Perm m.registry.catalogue.names) :
    ∃ calls, w.step (.ask handle (.allRulesIn order))
      = (.answered (.compiled m.registry.compiled) calls,
          { w with
            stores := w.stores.set m.store
              ((m.registry.gather order).run (.start s)).2.store }) := by
  have hanswer := m.registry.answer_perform (.allRulesIn order) (.start s)
    fun topic _ => h.truthful hw hfew hs hm topic.1 topic.2
  rw [Registry.plainAnswer, Registry.assemble_eq_compiled horder] at hanswer
  have hafter : m.registry.after (.allRulesIn order) = m.registry := rfl
  refine ⟨((m.registry.perform (.allRulesIn order)).run (.start s)).2.calls, ?_⟩
  rw [step_ask hh hm hs, hanswer, hafter, putBack_self hm]
  rfl

/-- **The order of compiling shows nowhere.**  Take any course of events from the beginning in
which no value is written into a store from outside, a registry at its end, and its names in any
order.  When the rules of every contract are asked for in that order, the answer gives each
contract its own rules, in increasing order of names, if a check has nothing to report; and else
it is the first failure of the report.  In both cases the workspace is as before but for the
registry's store.  If that keeps what it is given, it holds the table of each contract that
compiles under its key, nothing under the key of one that does not, and under every other key what
it held before.  Asking without an order is asking in the order of names. -/
theorem allRulesIn_any_order (events : List Event) (hdrop : ∀ event ∈ events, event.writesNothing)
    (hfew : events.countP Event.opensRegistry < 2 ^ 64) (handle : Nat) (m : Member) (s : Store)
    (hm : (empty.run events).2.member? handle = some m)
    (hs : (empty.run events).2.stores[m.store]? = some s) (order : List String)
    (horder : order.Perm m.registry.catalogue.names) :
    ∃ answer calls t,
      (empty.run events).2.step (.ask handle (.allRulesIn order))
          = (.answered (.compiled answer) calls,
              { (empty.run events).2 with
                stores := (empty.run events).2.stores.set m.store t }) ∧
        (m.registry.checkContracts = none → ∃ tables, answer = .ok tables ∧
          (tables.map Prod.fst).Pairwise (· < ·) ∧
          List.Forall₂ (fun (c : Contract) entry => entry.1 = c.name ∧ c.rules = .ok entry.2)
            m.registry.catalogue.contracts tables) ∧
        (∀ report, m.registry.checkContracts = some report →
          answer = .error (.untyped report.first)) ∧
        (s.kind = .memory →
          (∀ c ∈ m.registry.catalogue.contracts, ∀ table, c.ruleTable = .ok table →
            t.get? (m.registry.key .rules c.name) = some (.rules table)) ∧
          (∀ c ∈ m.registry.catalogue.contracts, (¬∃ texts, c.rules = .ok texts) →
            t.get? (m.registry.key .rules c.name) = none) ∧
          ∀ key, (∀ c ∈ m.registry.catalogue.contracts, key ≠ m.registry.key .rules c.name) →
            t.get? key = s.get? key) ∧
        (empty.run events).2.step (.ask handle .allRules)
          = (empty.run events).2.step (.ask handle (.allRulesIn m.registry.catalogue.names)) := by
  have hw : (empty.run events).2.WellFormed := wellFormed_run events wellFormed_empty
  have hlen := length_members_lt hfew
  have hacc := accounted_run hdrop hfew
  obtain ⟨position, hh, hmember⟩ := Option.bind_eq_some_iff.mp hm
  obtain ⟨calls, hstep⟩ := hacc.step_allRulesIn hw hlen hh hmember hs horder
  refine ⟨m.registry.compiled, calls, _, hstep, fun hcheck => ?_,
    fun report hcheck => Registry.compiled_of_report hcheck, fun hkind =>
      ⟨fun c hc table htable => ?_, fun c hc hfault => ?_, fun key hne => ?_⟩, ?_⟩
  · obtain ⟨tables, htables, hnames, hall⟩ := Registry.compiled_of_no_report hcheck
    refine ⟨tables, htables, ?_, hall⟩
    rw [hnames]
    exact m.registry.catalogue.increasing_names
  · have hname : c.name ∈ order := horder.mem_iff.mpr (List.mem_map_of_mem hc)
    exact Registry.get?_gather_of_mem (Catalogue.find?_of_mem hc) htable order (.start s) hkind
      (hacc.truthful hw hlen hs hmember .rules c.name) hname
  · have hfind := Catalogue.find?_of_mem hc
    exact Registry.get?_gather_of_fault hfind hfault order (.start s)
      (hacc.get?_eq_none hw hlen hs hmember hfind hfault)
  · refine Registry.get?_gather_of_ne order (.start s) fun name hname => ?_
    obtain ⟨c, hc, rfl⟩ := List.mem_map.mp (horder.mem_iff.mp hname)
    exact hne c hc
  · rw [step_ask hh hmember hs, step_ask hh hmember hs]
    rfl

/-! ### One course

The contract `full` compiles, and its fields are in the store before its rules are asked for;
`half` and `none` do not.  The contracts are worked off in decreasing order of names, so `none`
fails first, but the answer is the first failure of `half`. -/

def gatheringCourse : List Event :=
  [.openStore .memory, .openRegistry 0, .ask 0 (.register Registry.fullContract),
    .ask 0 (.fields "full"), .ask 0 (.register Registry.noneContract),
    .ask 0 (.register Registry.halfContract)]

/-- The store at the end of that course. -/
def gatheringStore : Store :=
  ⟨.memory, .ofList [(((Registry.new 1).key .fields "full").text, .fields ["age"])]⟩

theorem allRulesIn_any_order_gatheringCourse :
    (∃ answer calls t,
      (empty.run gatheringCourse).2.step (.ask 0 (.allRulesIn ["none", "half", "full"]))
          = (.answered (.compiled answer) calls,
              { (empty.run gatheringCourse).2 with
                stores := (empty.run gatheringCourse).2.stores.set 0 t }) ∧
        answer = .error (.untyped ⟨"size", .property "size"⟩) ∧
        t.get? ((Registry.new 1).key .rules "full")
          = some (.rules (.ofList [("age", [⟨"numeric", []⟩])])) ∧
        t.get? ((Registry.new 1).key .rules "half") = none ∧
        t.get? ((Registry.new 1).key .fields "full") = some (.fields ["age"])) ∧
      ∃ answer calls t,
        (empty.run (gatheringCourse.take 3)).2.step (.ask 0 (.allRulesIn ["full"]))
            = (.answered (.compiled answer) calls,
                { (empty.run (gatheringCourse.take 3)).2 with
                  stores := (empty.run (gatheringCourse.take 3)).2.stores.set 0 t }) ∧
          ∃ tables, answer = .ok tables ∧
            List.Forall₂ (fun (c : Contract) entry => entry.1 = c.name ∧ c.rules = .ok entry.2)
              [Registry.fullContract] tables := by
  have hm : (empty.run gatheringCourse).2.member? 0 = some ⟨Registry.brokenRegistry, 0⟩ := by
    decide +kernel
  have hs : (empty.run gatheringCourse).2.stores[0]? = some gatheringStore := by decide +kernel
  have hm' : (empty.run (gatheringCourse.take 3)).2.member? 0
      = some ⟨⟨1, Catalogue.empty.insert Registry.fullContract⟩, 0⟩ := by
    decide +kernel
  have hs' : (empty.run (gatheringCourse.take 3)).2.stores[0]? = some (.new .memory) := by
    decide +kernel
  obtain ⟨answer, calls, t, hstep, -, hfails, hstore, -⟩ :=
    allRulesIn_any_order gatheringCourse (by decide) (by decide) 0 _ _ hm hs
      ["none", "half", "full"] (by decide +kernel)
  obtain ⟨answer', calls', t', hstep', hgives, -⟩ :=
    allRulesIn_any_order (gatheringCourse.take 3) (by decide) (by decide) 0 _ _ hm' hs' ["full"]
      (by decide +kernel)
  obtain ⟨hthere, hnone, hothers⟩ := hstore rfl
  obtain ⟨tables, htables, -, hall⟩ := hgives (by decide +kernel)
  refine ⟨⟨answer, calls, t, hstep, ?_, ?_, ?_, ?_⟩, answer', calls', t', hstep', tables, htables,
    hall⟩
  · exact hfails Registry.brokenReport (by decide +kernel)
  · exact hthere Registry.fullContract (by decide +kernel) _ (by decide +kernel)
  · refine hnone Registry.halfContract (by decide +kernel) ?_
    rw [← fault?_eq_none_iff]
    decide +kernel
  · rw [hothers _ (by decide +kernel)]
    decide +kernel

end Workspace

end FieldRules

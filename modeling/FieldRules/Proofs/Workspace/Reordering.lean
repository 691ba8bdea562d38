/-
# The order of registering leaves no trace

A registry that is opened on an empty store of its own is given contracts of different names, and
asked other things in between: another order of the contracts, with other things in between, makes
a registry that cannot be told from it (`run_freshCourse_of_perm`).

The two registries differ on the way, and so do their stores.  What they have in common comes from
both ends.

* A store of its own stays faithful to a registry, whatever that is asked (`Serves.run`), so every
  answer is the plain one, and that depends on the contracts alone (`plainAnswers_congr`).
* The contracts of a registry are those that came in (`contracts_afterAll`), and a catalogue has a
  single way to hold them (`Catalogue.eq_of_perm`).
-/
import FieldRules.Proofs.Catalogue.Names
import FieldRules.Proofs.Registry.Checking
import FieldRules.Proofs.Workspace.Steps

namespace FieldRules

open scoped List

/-! ## 1. The contracts decide -/

namespace Catalogue

/-- Catalogues of the same contracts are the same: there is one increasing order of names. -/
theorem eq_of_perm {k l : Catalogue} (h : k.contracts.Perm l.contracts) : k = l := by
  have hcontracts : k.contracts = l.contracts :=
    h.eq_of_pairwise (fun a b _ _ hab hba => absurd hab (String.lt_asymm hba)) k.increasing
      l.increasing
  cases k
  cases l
  cases hcontracts
  rfl

end Catalogue

/-- The contract that an action brings. -/
def Action.registered? : Action → Option Contract
  | .register c => some c
  | _ => none

/-- The contracts that a list of actions brings, in this order. -/
def registrations (actions : List Action) : List Contract := actions.filterMap Action.registered?

namespace Registry

/-- The registry that comes of a list of actions. -/
def afterAll (r : Registry) : List Action → Registry
  | [] => r
  | action :: rest => (r.after action).afterAll rest

/-- The answers of a list of actions when there is no store. -/
def plainAnswers (r : Registry) : List Action → List Answer
  | [] => []
  | action :: rest => r.plainAnswer action :: (r.after action).plainAnswers rest

variable {r q : Registry}

theorem plainAnswer_congr (h : r.catalogue = q.catalogue) (action : Action) :
    r.plainAnswer action = q.plainAnswer action := by
  obtain ⟨number, catalogue⟩ := r
  cases h
  cases action <;> rfl

theorem catalogue_after_congr (h : r.catalogue = q.catalogue) (action : Action) :
    (r.after action).catalogue = (q.after action).catalogue := by
  cases action with
  | register c =>
    by_cases hc : (r.catalogue.find? c.name).isSome
    · rw [after_register_of_taken hc, after_register_of_taken (h ▸ hc), h]
    · rw [after_register_of_new hc, after_register_of_new (h ▸ hc), h]
  | _ => exact h

/-- **Registries with the same contracts answer alike**, one action after the other. -/
theorem plainAnswers_congr (actions : List Action) (h : r.catalogue = q.catalogue) :
    r.plainAnswers actions = q.plainAnswers actions := by
  induction actions generalizing r q with
  | nil => rfl
  | cons action rest ih =>
    rw [plainAnswers, plainAnswers, plainAnswer_congr h, ih (catalogue_after_congr h action)]

/-- **The contracts that came in are there**, each once, beside those that were there before. -/
theorem contracts_afterAll (actions : List Action)
    (hnames : ((registrations actions).map Contract.name).Nodup)
    (hnew : ∀ c ∈ registrations actions, ¬r.catalogue.Has c.name) :
    (r.afterAll actions).catalogue.contracts.Perm
      (r.catalogue.contracts ++ registrations actions) := by
  induction actions generalizing r with
  | nil => simp [afterAll, registrations]
  | cons action rest ih =>
    cases action with
    | register c =>
      have hfirst : registrations (.register c :: rest) = c :: registrations rest := rfl
      rw [hfirst, List.map_cons, List.nodup_cons] at hnames
      obtain ⟨hc, hothers⟩ := List.forall_mem_cons.mp (hfirst ▸ hnew)
      have hafter : r.after (.register c) = { r with catalogue := r.catalogue.insert c } :=
        after_register_of_new (by rwa [← Catalogue.has_iff])
      have hlater : ∀ d ∈ registrations rest, ¬(r.catalogue.insert c).Has d.name := by
        intro d hd hhas
        rcases Catalogue.has_insert.mp hhas with hhas | heq
        · exact hothers d hd hhas
        · exact hnames.1 (heq ▸ List.mem_map_of_mem hd)
      rw [afterAll, hafter, hfirst]
      calc (afterAll { r with catalogue := r.catalogue.insert c } rest).catalogue.contracts
          ~ (r.catalogue.insert c).contracts ++ registrations rest := ih hnames.2 hlater
        _ ~ c :: r.catalogue.contracts ++ registrations rest :=
          (Catalogue.contracts_insert_of_new hc).append_right _
        _ ~ r.catalogue.contracts ++ c :: registrations rest := List.perm_middle.symm
    | _ => exact ih hnames hnew

end Registry

/-! ## 2. A registry with a store of its own -/

namespace Workspace

variable {w : Workspace} {handle position store : Nat} {r : Registry}

/-- A handle leads to a registry whose store is faithful to it. -/
structure Serves (w : Workspace) (handle position store : Nat) (r : Registry) : Prop where
  handle_eq : w.handles[handle]? = some position
  member_eq : w.members[position]? = some ⟨r, store⟩
  exists_faithful : ∃ s, w.stores[store]? = some s ∧ s.Faithful r

/-- **One action**: it is answered plainly, and the store stays faithful. -/
theorem Serves.step (h : w.Serves handle position store r) (action : Action) :
    (w.step (.ask handle action)).1.answer? = some (r.plainAnswer action) ∧
      (w.step (.ask handle action)).2.Serves handle position store (r.after action) := by
  obtain ⟨hh, hm, s, hs, hfaithful⟩ := h
  have hanswer := r.answer_perform action (.start s) fun topic _ =>
    hfaithful.truthful topic.1 topic.2
  have hleaves := r.leaves_perform action (.start s)
  rw [step_ask hh hm hs]
  refine ⟨congrArg some hanswer, hh, ?_, _, ?_, hleaves.faithful hfaithful⟩
  · exact getElem?_set_of_some hm
  · exact getElem?_set_of_some hs

/-- **One action after the other**: each is answered plainly, and the store stays faithful. -/
theorem Serves.run (actions : List Action) (h : w.Serves handle position store r) :
    (w.run (actions.map (.ask handle))).1.map Outcome.answer?
        = (r.plainAnswers actions).map some ∧
      (w.run (actions.map (.ask handle))).2.Serves handle position store (r.afterAll actions) := by
  induction actions generalizing w r with
  | nil => exact ⟨rfl, h⟩
  | cons action rest ih =>
    obtain ⟨hanswer, hnext⟩ := h.step action
    obtain ⟨hanswers, hlast⟩ := ih hnext
    refine ⟨?_, hlast⟩
    simp only [List.map_cons, Workspace.run, Registry.plainAnswers]
    rw [hanswer, hanswers]

theorem Serves.member?_eq (h : w.Serves handle position store r) :
    w.member? handle = some ⟨r, store⟩ := by
  rw [member?, h.handle_eq]
  exact h.member_eq

/-- A store and a registry on it are opened, and the registry is asked one thing after the
other. -/
def freshCourse (w : Workspace) (actions : List Action) : List Event :=
  .openStore .memory :: .openRegistry w.stores.length :: actions.map (.ask w.handles.length)

/-- The store of a fresh registry is faithful to it, because it is empty. -/
theorem serves_openRegistry (w : Workspace) :
    ((w.openStore .memory).openRegistry w.stores.length).Serves w.handles.length
      w.members.length w.stores.length (.new w.nextNumber) := by
  refine ⟨?_, ?_, .new .memory, ?_, .new .memory _⟩
  · exact List.getElem?_concat_length
  · exact List.getElem?_concat_length
  · exact List.getElem?_concat_length

theorem serves_freshCourse (w : Workspace) (actions : List Action) :
    (w.run (w.freshCourse actions)).2.Serves w.handles.length w.members.length w.stores.length
      ((Registry.new w.nextNumber).afterAll actions) := by
  have hopen : ((w.openStore .memory).step (.openRegistry w.stores.length)).2
      = (w.openStore .memory).openRegistry w.stores.length := by
    simp [step, openStore]
  change (((w.openStore .memory).step (.openRegistry w.stores.length)).2.run
    (actions.map (.ask w.handles.length))).2.Serves _ _ _ _
  rw [hopen]
  exact (w.serves_openRegistry.run actions).2

/-! ## 3. Reordering -/

/-- **The order of registering leaves no trace.**  Two registries are opened, each on an empty
store of its own, in any two workspaces.  Both are given the same contracts, of which no two have
one name, in any two orders, and asked anything in between.  Then they have the same contracts, the
ones they were given; and whatever they are asked from then on, one action after the other, the
answers are the same. -/
theorem run_freshCourse_of_perm (w w' : Workspace) (first second : List Action)
    (hnames : ((registrations first).map Contract.name).Nodup)
    (hperm : (registrations first).Perm (registrations second)) :
    ∃ m m', (w.run (w.freshCourse first)).2.member? w.handles.length = some m ∧
      (w'.run (w'.freshCourse second)).2.member? w'.handles.length = some m' ∧
      m.registry.catalogue = m'.registry.catalogue ∧
      m.registry.catalogue.contracts.Perm (registrations first) ∧
      ∀ more : List Action, ∃ answers : List Answer,
        ((w.run (w.freshCourse first)).2.run (more.map (.ask w.handles.length))).1.map
            Outcome.answer? = answers.map some ∧
          ((w'.run (w'.freshCourse second)).2.run (more.map (.ask w'.handles.length))).1.map
            Outcome.answer? = answers.map some := by
  have hnames' : ((registrations second).map Contract.name).Nodup :=
    (hperm.map Contract.name).nodup_iff.mp hnames
  have hnone : ∀ (number : Nat) (actions : List Action), ∀ c ∈ registrations actions,
      ¬(Registry.new number).catalogue.Has c.name := by
    rintro number actions c - ⟨d, hd, -⟩
    cases hd
  have hcontracts := Registry.contracts_afterAll first hnames (hnone w.nextNumber first)
  have hcontracts' := Registry.contracts_afterAll second hnames' (hnone w'.nextNumber second)
  have hsame : ((Registry.new w.nextNumber).afterAll first).catalogue
      = ((Registry.new w'.nextNumber).afterAll second).catalogue :=
    Catalogue.eq_of_perm (hcontracts.trans (hperm.trans hcontracts'.symm))
  have hserves := w.serves_freshCourse first
  have hserves' := w'.serves_freshCourse second
  refine ⟨_, _, hserves.member?_eq, hserves'.member?_eq, hsame, hcontracts, fun more => ?_⟩
  refine ⟨_, (hserves.run more).1, ?_⟩
  rw [Registry.plainAnswers_congr more hsame]
  exact (hserves'.run more).1

/-! ### Two orders

Three contracts, two of which do not compile, come into a registry of an empty workspace and into
one that stands beside another registry.  One is asked for all rules when the first contract is
there and loses its store later; the other is asked about a contract that has not come in yet. -/

def ascendingActions : List Action :=
  [.register Registry.fullContract, .allRules, .register Registry.halfContract, .rules "half",
    .flush, .register Registry.noneContract]

def descendingActions : List Action :=
  [.fields "full", .register Registry.noneContract, .checkContracts,
    .register Registry.halfContract, .register Registry.fullContract, .fields "half"]

/-- A workspace with a registry. -/
def occupied : Workspace := (empty.openStore .forgetful).openRegistry 0

theorem run_freshCourse_of_perm_ascendingActions :
    ∃ answers : List Answer,
      ((empty.run (empty.freshCourse ascendingActions)).2.run
          [.ask 0 .names, .ask 0 .checkContracts, .ask 0 .allRules, .ask 0 (.rules "full")]).1.map
          Outcome.answer? = answers.map some ∧
        ((occupied.run (occupied.freshCourse descendingActions)).2.run
          [.ask 1 .names, .ask 1 .checkContracts, .ask 1 .allRules, .ask 1 (.rules "full")]).1.map
          Outcome.answer? = answers.map some := by
  obtain ⟨_, _, -, -, -, -, hmore⟩ := run_freshCourse_of_perm empty occupied ascendingActions
    descendingActions (by decide +kernel) (by decide +kernel)
  exact hmore [.names, .checkContracts, .allRules, .rules "full"]

end Workspace

end FieldRules

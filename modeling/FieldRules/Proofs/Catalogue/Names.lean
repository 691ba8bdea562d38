/-
# Contracts of a catalogue by their names

A catalogue is ordered by name, so no two of its contracts have one name, and what is in it and
what is found in it are the same thing (`mem_contracts_iff`).  A name that is not there yet can be
given to a contract without losing any other (`contracts_insert_of_new`).
-/
import Mathlib
import FieldRules.Catalogue

namespace FieldRules

namespace Catalogue

/-- Whether a contract of this name is there. -/
def Has (k : Catalogue) (name : String) : Prop := ∃ c ∈ k.contracts, c.name = name

theorem increasing_names (k : Catalogue) : k.names.Pairwise (· < ·) :=
  List.pairwise_map.mpr k.increasing

/-- Names tell the contracts of a catalogue apart. -/
theorem eq_of_name_eq {k : Catalogue} {c d : Contract} (hc : c ∈ k.contracts)
    (hd : d ∈ k.contracts) (h : c.name = d.name) : c = d := by
  have hinj : (k.contracts.map Contract.name).Nodup :=
    k.increasing_names.imp fun hlt heq => absurd (heq ▸ hlt) (lt_irrefl _)
  exact List.inj_on_of_nodup_map hinj hc hd h

/-- What is found under a name is there, and has the name. -/
theorem of_find? {k : Catalogue} {name : String} {c : Contract} (h : k.find? name = some c) :
    c ∈ k.contracts ∧ c.name = name :=
  ⟨List.mem_of_find?_eq_some h, by simpa using List.find?_some h⟩

/-- Each contract of a catalogue is found under its name. -/
theorem find?_of_mem {k : Catalogue} {c : Contract} (hc : c ∈ k.contracts) :
    k.find? c.name = some c := by
  cases hfind : k.find? c.name with
  | none => exact absurd (List.find?_eq_none.mp hfind c hc) (by simp)
  | some d =>
    obtain ⟨hd, hname⟩ := of_find? hfind
    rw [eq_of_name_eq hd hc hname]

/-- **What is in a catalogue is what is found in it.** -/
theorem mem_contracts_iff {k : Catalogue} {c : Contract} :
    c ∈ k.contracts ↔ k.find? c.name = some c :=
  ⟨find?_of_mem, fun h => (of_find? h).1⟩

theorem has_iff {k : Catalogue} {name : String} : k.Has name ↔ (k.find? name).isSome := by
  rw [Option.isSome_iff_exists]
  constructor
  · rintro ⟨c, hc, rfl⟩
    exact ⟨c, find?_of_mem hc⟩
  · rintro ⟨c, h⟩
    exact ⟨c, of_find? h⟩

/-- A contract that is put in brings its name. -/
theorem has_insert {k : Catalogue} {c : Contract} {name : String} :
    (k.insert c).Has name ↔ k.Has name ∨ c.name = name := by
  rw [has_iff, has_iff, find?_insert]
  by_cases h : name = c.name
  · simp [h]
  · simp [h, Ne.symm h]

/-- What is there after a contract of a new name has been put in. -/
theorem mem_insert_of_new {k : Catalogue} {c d : Contract} (h : ¬k.Has c.name) :
    d ∈ (k.insert c).contracts ↔ d ∈ k.contracts ∨ d = c := by
  rw [mem_contracts_iff, find?_insert, mem_contracts_iff]
  by_cases hname : d.name = c.name
  · have hnone : k.find? c.name = none := by simpa [has_iff] using h
    rw [if_pos hname, hname, hnone]
    simp [eq_comm]
  · have hne : d ≠ c := fun heq => hname (heq ▸ rfl)
    rw [if_neg hname]
    simp [hne]

theorem nodup_contracts (k : Catalogue) : k.contracts.Nodup :=
  k.increasing.imp fun hlt heq => absurd (heq ▸ hlt) (lt_irrefl _)

/-- **A contract of a new name comes to those that are there, once.** -/
theorem contracts_insert_of_new {k : Catalogue} {c : Contract} (h : ¬k.Has c.name) :
    (k.insert c).contracts.Perm (c :: k.contracts) := by
  have hc : c ∉ k.contracts := fun hc => h ⟨c, hc, rfl⟩
  rw [List.perm_ext_iff_of_nodup (nodup_contracts _) (List.nodup_cons.mpr ⟨hc, nodup_contracts _⟩)]
  intro d
  rw [mem_insert_of_new h, List.mem_cons, or_comm]

/-- What is found in a catalogue is what is found in any list of its contracts. -/
theorem find?_eq_of_perm {k : Catalogue} {l : List Contract} (h : k.contracts.Perm l)
    (name : String) : k.find? name = l.find? fun c => c.name = name := by
  cases hfind : l.find? fun c => c.name = name with
  | none =>
    refine List.find?_eq_none.mpr fun c hc => ?_
    exact List.find?_eq_none.mp hfind c (h.mem_iff.mp hc)
  | some c =>
    have hname : c.name = name := by simpa using List.find?_some hfind
    rw [← hname]
    exact find?_of_mem (h.mem_iff.mpr (List.mem_of_find?_eq_some hfind))

end Catalogue

end FieldRules

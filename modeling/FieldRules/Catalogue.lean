/-
# Catalogues: contracts by name

A catalogue holds contracts in strictly increasing order of their names, so no two have the same
name.  The order in which contracts come in leaves no trace.
-/
import FieldRules.Contract

namespace FieldRules

/-- Contracts ordered by name, no two of one name. -/
structure Catalogue where
  contracts : List Contract
  increasing : contracts.Pairwise fun a b => a.name < b.name
deriving DecidableEq

namespace Catalogue

/-! ## 1. Ordered insertion -/

/-- Puts a contract at its place; one of the same name gives way. -/
def place (c : Contract) : List Contract → List Contract
  | [] => [c]
  | other :: rest =>
    if c.name < other.name then c :: other :: rest
    else if c.name = other.name then c :: rest
    else other :: place c rest

/-- Placing a contract brings in no other. -/
theorem mem_of_mem_place {c d : Contract} : ∀ {l : List Contract}, d ∈ place c l → d = c ∨ d ∈ l
  | [], h => by simpa [place] using h
  | other :: rest, h => by
    unfold place at h
    split at h
    · simpa using h
    · split at h
      · rcases List.mem_cons.1 h with h | h
        · exact .inl h
        · exact .inr (List.mem_cons_of_mem _ h)
      · rcases List.mem_cons.1 h with h | h
        · exact .inr (by simp [h])
        · rcases mem_of_mem_place h with h | h
          · exact .inl h
          · exact .inr (List.mem_cons_of_mem _ h)

/-- Placing a contract keeps the names strictly increasing. -/
theorem increasing_place (c : Contract) : ∀ l : List Contract,
    l.Pairwise (fun a b => a.name < b.name) → (place c l).Pairwise fun a b => a.name < b.name
  | [], _ => by simp [place]
  | other :: rest, h => by
    have ⟨hother, hrest⟩ := List.pairwise_cons.1 h
    unfold place
    split
    · rename_i hlt
      refine List.pairwise_cons.2 ⟨?_, h⟩
      intro d hd
      rcases List.mem_cons.1 hd with hd | hd
      · exact hd ▸ hlt
      · exact String.lt_trans hlt (hother d hd)
    · split
      · rename_i heq
        exact List.pairwise_cons.2 ⟨fun d hd => heq ▸ hother d hd, hrest⟩
      · rename_i hnlt hne
        refine List.pairwise_cons.2 ⟨?_, increasing_place c rest hrest⟩
        intro d hd
        rcases mem_of_mem_place hd with hd | hd
        · subst hd
          rcases Decidable.em (other.name < d.name) with h | h
          · exact h
          · exact absurd (String.le_antisymm (String.not_lt.1 h) (String.not_lt.1 hnlt)) hne
        · exact hother d hd

/-! ## 2. The catalogue -/

/-- The catalogue without contracts. -/
def empty : Catalogue := ⟨[], .nil⟩

/-- The names, in increasing order. -/
def names (k : Catalogue) : List String := k.contracts.map Contract.name

/-- The contract of a name. -/
def find? (k : Catalogue) (name : String) : Option Contract :=
  k.contracts.find? fun c => c.name = name

/-- The catalogue with a contract put in. -/
def insert (k : Catalogue) (c : Contract) : Catalogue :=
  ⟨place c k.contracts, increasing_place c k.contracts k.increasing⟩

/-- How many contracts there are. -/
def size (k : Catalogue) : Nat := k.contracts.length

/-- Whether there are no contracts. -/
def isEmpty (k : Catalogue) : Bool := k.contracts.isEmpty

/-! ## 3. Look-up -/

theorem find?_place (c : Contract) (name : String) : ∀ l : List Contract,
    (place c l).find? (fun d => d.name = name)
      = if name = c.name then some c else l.find? fun d => d.name = name
  | [] => by
    by_cases h : name = c.name
    · simp [place, h]
    · simp [place, h, Ne.symm h]
  | other :: rest => by
    have ih := find?_place c name rest
    by_cases h : name = c.name
    · subst h
      simp only [place, if_true] at ih ⊢
      split
      · simp
      · split
        · simp
        · rename_i hne
          simp [Ne.symm hne, ih]
    · simp only [place, if_neg h] at ih ⊢
      split
      · simp [Ne.symm h]
      · split
        · rename_i heq
          simp [Ne.symm h, ← heq]
        · simp [List.find?_cons, ih]

@[simp] theorem find?_empty (name : String) : empty.find? name = none := rfl

/-- A contract put in is found under its name, and every other name is looked up as before. -/
theorem find?_insert (k : Catalogue) (c : Contract) (name : String) :
    (k.insert c).find? name = if name = c.name then some c else k.find? name :=
  find?_place c name k.contracts

end Catalogue

end FieldRules

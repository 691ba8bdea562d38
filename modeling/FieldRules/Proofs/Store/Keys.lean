/-
# Keys of different answers are different

A key is one text, made of a scope, a kind and the name of a contract with a separator after
each of the first two.  The name may hold both separators and may itself look like a key, so it
is not obvious that the text says which answer is meant.  It does, as long as the scope holds no
`/`: the first `/` then ends the scope, and what follows it begins with the name of a kind, of
which neither begins the other.

The scope of a registry is a fixed word and a decimal number, so its keys belong to it alone
(`Registry.key_inj`).
-/
import Mathlib
import FieldRules.Registry

namespace FieldRules

/-! ## 1. Splitting a text -/

/-- A text splits in one way at the first separator. -/
theorem append_cons_inj_left {c : Char} : ∀ {a b s t : List Char}, c ∉ a → c ∉ b →
    a ++ c :: s = b ++ c :: t → a = b ∧ s = t
  | [], [], s, t, _, _, h => ⟨rfl, List.tail_eq_of_cons_eq h⟩
  | [], x :: b, s, t, _, hb, h => by
    have hx : c = x := List.head_eq_of_cons_eq h
    exact absurd (hx ▸ List.mem_cons_self) hb
  | x :: a, [], s, t, ha, _, h => by
    have hx : x = c := List.head_eq_of_cons_eq h
    exact absurd (hx ▸ List.mem_cons_self) ha
  | x :: a, y :: b, s, t, ha, hb, h => by
    have hx : x = y := List.head_eq_of_cons_eq h
    obtain ⟨hab, hst⟩ := append_cons_inj_left (fun e => ha (List.mem_cons_of_mem _ e))
      (fun e => hb (List.mem_cons_of_mem _ e)) (List.tail_eq_of_cons_eq h)
    exact ⟨by rw [hx, hab], hst⟩

/-! ## 2. Keys in a scope -/

namespace StoreKey

/-- What follows the scope in a key says the kind and the contract. -/
theorem kind_append_inj {k l : AnswerKind} {m n : List Char}
    (h : k.name.toList ++ ':' :: m = l.name.toList ++ ':' :: n) : k = l ∧ m = n := by
  cases k <;> cases l <;> simp [AnswerKind.name] at h ⊢ <;> exact h

theorem toList_inScope (scope : String) (kind : AnswerKind) (contract : String) :
    (inScope scope kind contract).text.toList
      = scope.toList ++ '/' :: (kind.name.toList ++ ':' :: contract.toList) := by
  simp [inScope]

/-- **A key in a scope without `/` says which answer is meant.** -/
theorem inScope_inj {s t : String} {k l : AnswerKind} {m n : String}
    (hs : '/' ∉ s.toList) (ht : '/' ∉ t.toList) (h : inScope s k m = inScope t l n) :
    s = t ∧ k = l ∧ m = n := by
  have htext := congrArg (fun key => key.text.toList) h
  simp only [toList_inScope] at htext
  obtain ⟨hscope, hrest⟩ := append_cons_inj_left hs ht htext
  obtain ⟨hkind, hname⟩ := kind_append_inj hrest
  exact ⟨String.toList_injective hscope, hkind, String.toList_injective hname⟩

end StoreKey

/-! ## 3. Keys of registries -/

namespace Registry

theorem slash_not_mem_scope (r : Registry) : '/' ∉ r.scope.toList := by
  intro h
  rw [scope, String.toList_append, List.mem_append] at h
  rcases h with h | h
  · exact absurd h (by decide)
  · have hdigits : '/' ∈ Nat.toDigits 10 r.number := by
      rw [← Nat.toList_repr]
      exact h
    exact absurd (Nat.isDigit_of_mem_toDigits (by decide) (by decide) hdigits) (by decide)

/-- Registries of one scope have one number. -/
theorem number_eq_of_scope_eq {r q : Registry} (h : r.scope = q.scope) : r.number = q.number :=
  Nat.repr_injective ((String.append_right_inj "registry-").mp h)

/-- **A key of a registry belongs to one registry, one kind and one contract.** -/
theorem key_inj {r q : Registry} {k l : AnswerKind} {m n : String}
    (h : r.key k m = q.key l n) : r.number = q.number ∧ k = l ∧ m = n := by
  obtain ⟨hscope, hkind, hname⟩ :=
    StoreKey.inScope_inj r.slash_not_mem_scope q.slash_not_mem_scope h
  exact ⟨number_eq_of_scope_eq hscope, hkind, hname⟩

/-- **No key of a registry is one outside every scope.**  The scope begins as the kind of a rule
table does, but the second letter tells them apart. -/
theorem key_ne_plain (r : Registry) (k l : AnswerKind) (m n : String) :
    r.key k m ≠ StoreKey.plain l n := by
  intro h
  have htext := congrArg (fun key => key.text.toList) h
  rw [key, StoreKey.toList_inScope, scope, String.toList_append] at htext
  cases l <;> simp [StoreKey.plain, AnswerKind.name] at htext

/-- **Keys never collide.**  A key of a registry says which registry, which kind and which contract
it is for, and is never one outside every scope, whatever the names of the contracts hold.  More
generally a key in a scope says what it was made of as long as the scope holds no `/`. -/
theorem keys_never_collide :
    (∀ (r q : Registry) (k l : AnswerKind) (m n : String),
      r.key k m = q.key l n ↔ r.number = q.number ∧ k = l ∧ m = n) ∧
    (∀ (r : Registry) (k l : AnswerKind) (m n : String), r.key k m ≠ StoreKey.plain l n) ∧
    ∀ s t : String, '/' ∉ s.toList → '/' ∉ t.toList → ∀ (k l : AnswerKind) (m n : String),
      StoreKey.inScope s k m = StoreKey.inScope t l n ↔ s = t ∧ k = l ∧ m = n := by
  refine ⟨?_, key_ne_plain, ?_⟩
  · intro r q k l m n
    constructor
    · exact key_inj
    · rintro ⟨hnumber, rfl, rfl⟩
      rw [key, key, scope, scope, hnumber]
  · intro s t hs ht k l m n
    constructor
    · exact StoreKey.inScope_inj hs ht
    · rintro ⟨rfl, rfl, rfl⟩
      rfl

/-! ### Names like keys

The names hold separators and whole keys, the number of one registry begins that of the other, and
one scope holds the separator that ends a kind. -/

theorem keys_never_collide_lookalike :
    (new 1).key .fields "1/all:page" ≠ (new 11).key .fields "page" ∧
      (new 1).key .fields "page/rules:note" ≠ (new 1).key .rules "note" ∧
      (new 7).key .rules "page" ≠ StoreKey.plain .rules "registry-7/rules:page" ∧
      '/' ∉ "desk:all".toList ∧ '/' ∉ "desk".toList ∧
      StoreKey.inScope "desk:all" .fields "page" ≠ StoreKey.inScope "desk" .fields ":all/page" := by
  obtain ⟨hkeys, hplain, hscopes⟩ := keys_never_collide
  refine ⟨fun h => ?_, fun h => ?_, hplain _ _ _ _ _, by decide, by decide, fun h => ?_⟩
  · exact absurd ((hkeys _ _ _ _ _ _).mp h).1 (by decide)
  · exact absurd ((hkeys _ _ _ _ _ _).mp h).2.1 (by decide)
  · exact absurd ((hscopes _ _ (by decide) (by decide) _ _ _ _).mp h).1 (by decide)

/-- A scope that holds a `/` can be taken for another scope and a part of the name. -/
example : StoreKey.inScope "desk/all:page" .fields "note"
    = StoreKey.inScope "desk" .fields "page/all:note" := by
  decide +kernel

end Registry

end FieldRules

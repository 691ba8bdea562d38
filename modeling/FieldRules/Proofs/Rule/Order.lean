/-
# What putting kinds in order comes to

`Rule.inOrder` puts kinds into an ordered list one at a time.  It can also be said in two steps that
know nothing of each other: sort the kinds by identifier, repetitions and all, and then drop each
kind that repeats the one before it (`inOrder_eq_destutter`).  The second step looks at neighbours
only.  That it leaves no repetition behind is due to the identifiers: kinds of one identifier are
one kind, so sorting brings repetitions together.

An ordered list is given by what is in it.  So the outcome hangs on which kinds went in, not on
their order or their number (`inOrder_eq_iff`), and what is in order stays as it is
(`inOrder_of_increasing`).

Identifiers are compared letter by letter; comparing them byte by byte gives the same order
(`identifier_lt_iff`).
-/
import FieldRules.Proofs.Rule.Evaluation
import FieldRules.Text.Utf8

namespace FieldRules

namespace Rule

variable {kinds others : List Rule}

/-! ## 1. Identifiers as bytes -/

/-- The bytes of the identifier of a kind. -/
def identifierBytes (rule : Rule) : List UInt8 := Utf8.encode rule.identifier

theorem mem_registered (rule : Rule) : rule ∈ registered := mem_inOrder.mp (mem_all rule)

/-- Identifiers have one order by letters and by bytes. -/
theorem identifier_lt_iff (a b : Rule) :
    a.identifier < b.identifier ↔ a.identifierBytes < b.identifierBytes := by
  have htable : ∀ a ∈ registered, ∀ b ∈ registered,
      a.identifier < b.identifier ↔ a.identifierBytes < b.identifierBytes := by
    decide +kernel
  exact htable a (mem_registered a) b (mem_registered b)

/-! ## 2. Sorting, then dropping repetitions -/

/-- Whether a kind may stand before another when kinds are sorted by identifier. -/
def MayPrecede (a b : Rule) : Prop := a.identifier ≤ b.identifier

instance : DecidableRel MayPrecede := fun a b =>
  inferInstanceAs (Decidable (a.identifier ≤ b.identifier))

instance : Std.Total MayPrecede := ⟨fun a b => le_total a.identifier b.identifier⟩

instance : IsTrans Rule MayPrecede :=
  ⟨fun a b _ (hab : a.identifier ≤ b.identifier) hbc => hab.trans hbc⟩

/-- Kinds that may stand in either order are one kind, as their identifiers are one. -/
instance : Std.Antisymm MayPrecede :=
  ⟨fun _ _ hab hba => identifier_injective (le_antisymm hab hba)⟩

/-- Kinds sorted by identifier, repetitions and all. -/
def byIdentifier (kinds : List Rule) : List Rule := kinds.mergeSort (MayPrecede · ·)

theorem pairwise_byIdentifier (kinds : List Rule) : (byIdentifier kinds).Pairwise MayPrecede :=
  List.pairwise_mergeSort' MayPrecede kinds

theorem mem_byIdentifier {rule : Rule} : rule ∈ byIdentifier kinds ↔ rule ∈ kinds :=
  List.mem_mergeSort

/-- Sorted kinds without repetitions are in strictly increasing order. -/
theorem increasing_dedup (h : kinds.Pairwise MayPrecede) : Increasing kinds.dedup := by
  have hsorted : kinds.dedup.Pairwise MayPrecede := h.sublist (List.dedup_sublist kinds)
  have hdistinct : kinds.dedup.Pairwise (· ≠ ·) := List.nodup_dedup kinds
  refine (hsorted.and hdistinct).imp ?_
  rintro a b ⟨hle, hne⟩
  exact lt_of_le_of_ne hle fun heq => hne (identifier_injective heq)

/-- **Kinds are put in order by sorting them and dropping what repeats the one before it.** -/
theorem inOrder_eq_destutter (kinds : List Rule) :
    inOrder kinds = (byIdentifier kinds).destutter (· ≠ ·) := by
  have hsorted := pairwise_byIdentifier kinds
  rw [hsorted.destutter_eq_dedup]
  refine (increasing_inOrder kinds).eq_of_mem_iff (increasing_dedup hsorted) ?_
  intro rule
  rw [mem_inOrder, List.mem_dedup, mem_byIdentifier]

/-! ## 3. Only the kinds matter -/

/-- **Lists come to the same order exactly when they hold the same kinds.** -/
theorem inOrder_eq_iff : inOrder kinds = inOrder others ↔ ∀ rule, rule ∈ kinds ↔ rule ∈ others := by
  constructor
  · intro h rule
    rw [← mem_inOrder, h, mem_inOrder]
  · intro h
    refine (increasing_inOrder kinds).eq_of_mem_iff (increasing_inOrder others) ?_
    intro rule
    rw [mem_inOrder, mem_inOrder]
    exact h rule

theorem inOrder_of_increasing (h : Increasing kinds) : inOrder kinds = kinds :=
  (increasing_inOrder kinds).eq_of_mem_iff h fun _ => mem_inOrder

/-- Each kind of a list is there once after it has been put in order, and no other is. -/
theorem count_inOrder (kinds : List Rule) (rule : Rule) :
    (inOrder kinds).count rule = if rule ∈ kinds then 1 else 0 := by
  split
  · rename_i hmem
    exact List.count_eq_one_of_mem (increasing_inOrder kinds).nodup (mem_inOrder.mpr hmem)
  · rename_i hmem
    exact List.count_eq_zero_of_not_mem fun h => hmem (mem_inOrder.mp h)

/-- **Putting kinds in order forgets all but which kinds they are.**  It sorts them by identifier
and drops what repeats the one before it.  The outcome is in strictly increasing order of the bytes
of the identifiers, and holds each kind of the list once and no other kind.  Two lists have one
outcome exactly when they hold the same kinds; in particular a list gives `all` when it holds every
kind.  Putting in order twice is putting in order once. -/
theorem inOrder_canonical (kinds : List Rule) :
    inOrder kinds = (byIdentifier kinds).destutter (· ≠ ·) ∧
    ((inOrder kinds).Pairwise fun a b => a.identifierBytes < b.identifierBytes) ∧
    (∀ rule, (inOrder kinds).count rule = if rule ∈ kinds then 1 else 0) ∧
    (∀ others, inOrder kinds = inOrder others ↔ ∀ rule, rule ∈ kinds ↔ rule ∈ others) ∧
    (inOrder kinds = all ↔ ∀ rule, rule ∈ kinds) ∧
    inOrder (inOrder kinds) = inOrder kinds := by
  refine ⟨inOrder_eq_destutter kinds, ?_, count_inOrder kinds, fun _ => inOrder_eq_iff, ?_,
    inOrder_of_increasing (increasing_inOrder kinds)⟩
  · refine (increasing_inOrder kinds).imp ?_
    intro a b hlt
    exact (identifier_lt_iff a b).mp hlt
  · rw [all, inOrder_eq_iff]
    simp only [mem_registered, iff_true]

example : inOrder [url, date, array, url, dateFormat, date, url]
    = [array, date, dateFormat, url] := by
  decide +kernel

end Rule

end FieldRules

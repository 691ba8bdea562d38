/-
# Passes over a list that may fail

The entries of a map, and the properties of which a definition is made, are gone through one by
one, and the first failure ends the pass.  Both passes are `List.mapM` in `Except`
(`OrderedMap.traverseEntries_eq_mapM` for maps), and two facts about it are all that is needed:
a pass succeeds when each step does, with the results in order (`mapM_eq_ok_iff`), and it fails
with what the first failing step says (`mapM_eq_error_iff`).  Seen from all that its steps would
say, its fault is the first (`fault?_mapM`).

For maps this gives the result under each name (`get?_of_traverse`), the entry to blame
(`traverse_filter_eq_error_iff`), and the pass over two maps (`traverse_append_eq_ok_iff`).
-/
import Mathlib
import FieldRules.OrderedMap

namespace FieldRules

variable {α β ε : Type}

/-! ## 1. Lists -/

/-- **A pass succeeds step by step.** -/
theorem mapM_eq_ok_iff (f : α → Except ε β) : ∀ (l : List α) (out : List β),
    l.mapM f = .ok out ↔ List.Forall₂ (fun a b => f a = .ok b) l out
  | [], out => by
    cases out <;> simp [pure, Except.pure]
  | a :: rest, out => by
    have ih := mapM_eq_ok_iff f rest
    rw [List.mapM_cons]
    cases hfirst : f a with
    | error e => cases out <;> simp [bind, Except.bind, hfirst]
    | ok b =>
      cases hrest : rest.mapM f with
      | error e => cases out <;> simp [bind, Except.bind, hfirst, ← ih, hrest]
      | ok done =>
        cases out <;> simp [bind, Except.bind, pure, Except.pure, hfirst, ← ih, hrest]

/-- **A pass fails at its first failing step**, and says what that step says. -/
theorem mapM_eq_error_iff (f : α → Except ε β) : ∀ (l : List α) (e : ε),
    l.mapM f = .error e ↔
      ∃ before a after, l = before ++ a :: after ∧ (∀ b ∈ before, ∃ c, f b = .ok c) ∧
        f a = .error e
  | [], e => by
    constructor
    · intro h
      cases h
    · rintro ⟨before, a, after, h, -⟩
      cases before <;> cases h
  | a :: rest, e => by
    have ih := mapM_eq_error_iff f rest e
    rw [List.mapM_cons]
    cases hfirst : f a with
    | error e' =>
      constructor
      · intro h
        cases h
        exact ⟨[], a, rest, rfl, nofun, hfirst⟩
      · rintro ⟨before, a', after, hl, hbefore, hfail⟩
        cases before with
        | nil =>
          cases hl
          rw [hfirst] at hfail
          cases hfail
          rfl
        | cons b before =>
          cases hl
          obtain ⟨c, hc⟩ := hbefore a List.mem_cons_self
          rw [hfirst] at hc
          cases hc
    | ok b =>
      have htail : (Except.ok b >>= fun b => rest.mapM f >>= fun bs => pure (b :: bs))
          = Except.error e ↔ rest.mapM f = .error e := by
        cases rest.mapM f <;> simp [bind, Except.bind, pure, Except.pure]
      rw [htail, ih]
      constructor
      · rintro ⟨before, a', after, rfl, hbefore, hfail⟩
        refine ⟨a :: before, a', after, rfl, fun x hx => ?_, hfail⟩
        rcases List.mem_cons.mp hx with rfl | hx
        · exact ⟨b, hfirst⟩
        · exact hbefore x hx
      · rintro ⟨before, a', after, hl, hbefore, hfail⟩
        cases before with
        | nil =>
          cases hl
          rw [hfirst] at hfail
          cases hfail
        | cons x before =>
          cases hl
          exact ⟨before, a', after, rfl, fun y hy => hbefore y (List.mem_cons_of_mem _ hy), hfail⟩

/-- What a computation fails with. -/
def fault? : Except ε α → Option ε
  | .error e => some e
  | .ok _ => none

theorem fault?_eq_some_iff {x : Except ε α} {e : ε} : fault? x = some e ↔ x = .error e := by
  cases x <;> simp [fault?]

theorem fault?_eq_none_iff {x : Except ε α} : fault? x = none ↔ ∃ a, x = .ok a := by
  cases x <;> simp [fault?]

@[simp] theorem fault?_map (f : α → β) (x : Except ε α) : fault? (x.map f) = fault? x := by
  cases x <;> rfl

@[simp] theorem fault?_mapError {ε' : Type} (f : ε → ε') (x : Except ε α) :
    fault? (x.mapError f) = (fault? x).map f := by
  cases x <;> rfl

/-- **The fault of a pass is the first of all faults of its steps**, had each been tried. -/
theorem fault?_mapM (f : α → Except ε β) (l : List α) :
    fault? (l.mapM f) = (l.filterMap fun a => fault? (f a)).head? := by
  induction l with
  | nil => rfl
  | cons a rest ih =>
    rw [List.mapM_cons, List.filterMap_cons]
    cases f a with
    | error e => rfl
    | ok b =>
      rw [show fault? (Except.ok b : Except ε β) = none from rfl, ← ih]
      cases rest.mapM f <;> rfl

/-- Steps that do the same on a list make the same pass. -/
theorem mapM_congr_left {f g : α → Except ε β} {l : List α} (h : ∀ a ∈ l, f a = g a) :
    l.mapM f = l.mapM g := by
  induction l with
  | nil => rfl
  | cons a rest ih =>
    obtain ⟨ha, hrest⟩ := List.forall_mem_cons.mp h
    rw [List.mapM_cons, List.mapM_cons, ha, ih hrest]

/-- A pass over two lists is a pass over one and then over the other. -/
theorem mapM_append_eq_ok_iff (f : α → Except ε β) (l m : List α) (out : List β) :
    (l ++ m).mapM f = .ok out ↔
      ∃ first second, l.mapM f = .ok first ∧ m.mapM f = .ok second ∧ out = first ++ second := by
  rw [List.mapM_append]
  cases l.mapM f with
  | error e => simp [bind, Except.bind]
  | ok first =>
    cases m.mapM f with
    | error e => simp [bind, Except.bind]
    | ok second => simp [bind, Except.bind, pure, Except.pure, eq_comm]

namespace OrderedMap

/-! ## 2. Maps -/

theorem traverseEntries_eq_mapM (f : String → α → Except ε β) : ∀ l : List (String × α),
    traverseEntries f l = l.mapM fun entry => (f entry.1 entry.2).map (Prod.mk entry.1)
  | [] => rfl
  | (name, value) :: rest => by
    rw [traverseEntries, List.mapM_cons, traverseEntries_eq_mapM f rest]
    cases f name value with
    | error e => rfl
    | ok b =>
      cases rest.mapM fun entry => (f entry.1 entry.2).map (Prod.mk entry.1) <;> rfl

theorem lookup_eq_some_iff (name : String) (value : α) : ∀ {l : List (String × α)},
    (l.map Prod.fst).Nodup → (l.lookup name = some value ↔ (name, value) ∈ l)
  | [], _ => by simp
  | (key, old) :: rest, hnodup => by
    rw [List.map_cons, List.nodup_cons] at hnodup
    rw [List.lookup_cons, List.mem_cons]
    by_cases hk : name = key
    · subst hk
      have hrest : (name, value) ∉ rest := fun hmem =>
        hnodup.1 (List.mem_map.mpr ⟨(name, value), hmem, rfl⟩)
      simp [hrest, eq_comm]
    · simp [hk, beq_eq_false_iff_ne.2 hk, lookup_eq_some_iff name value hnodup.2]

/-- What is found under a name is an entry, for no name occurs twice. -/
theorem get?_eq_some_iff (m : OrderedMap α) (name : String) (value : α) :
    m.get? name = some value ↔ (name, value) ∈ m.entries :=
  lookup_eq_some_iff name value m.nodup

/-- **A pass over a map gives each name its own result.** -/
theorem get?_of_traverse {f : String → α → Except ε β} {m : OrderedMap α} {n : OrderedMap β}
    (h : m.traverse f = .ok n) {name : String} {value : α} (hget : m.get? name = some value) :
    ∃ result, f name value = .ok result ∧ n.get? name = some result := by
  rw [traverse_eq_ok_iff, traverseEntries_eq_mapM, mapM_eq_ok_iff] at h
  rw [get?_eq_some_iff] at hget
  obtain ⟨i, hi, hentry⟩ := List.getElem_of_mem hget
  have hstep := h.get hi (h.length_eq ▸ hi)
  simp only [List.get_eq_getElem, hentry] at hstep
  cases hresult : f name value with
  | error e =>
    rw [hresult] at hstep
    cases hstep
  | ok result =>
    rw [hresult] at hstep
    have hmem : (name, result) ∈ n.entries := by
      rw [Except.ok.inj hstep]
      exact List.getElem_mem _
    exact ⟨result, rfl, (get?_eq_some_iff n name result).mpr hmem⟩

/-- An entry of the result of a pass comes from an entry of the same name. -/
theorem exists_of_mem_traverse {f : String → α → Except ε β} {m : OrderedMap α}
    {n : OrderedMap β} (h : m.traverse f = .ok n) {name : String} {result : β}
    (hentry : (name, result) ∈ n.entries) :
    ∃ value, (name, value) ∈ m.entries ∧ f name value = .ok result := by
  rw [traverse_eq_ok_iff, traverseEntries_eq_mapM, mapM_eq_ok_iff] at h
  obtain ⟨i, hi, heq⟩ := List.getElem_of_mem hentry
  have hlen : i < m.entries.length := h.length_eq ▸ hi
  have hstep := h.get hlen hi
  simp only [List.get_eq_getElem, heq] at hstep
  cases hresult : f m.entries[i].1 m.entries[i].2 with
  | error e =>
    rw [hresult] at hstep
    cases hstep
  | ok done =>
    rw [hresult] at hstep
    obtain ⟨rfl, rfl⟩ := Prod.mk.inj (Except.ok.inj hstep)
    exact ⟨_, List.getElem_mem hlen, hresult⟩

/-- **A pass over a map fails at its first failing entry.** -/
theorem traverse_eq_error_iff_first (f : String → α → Except ε β) (m : OrderedMap α) (e : ε) :
    m.traverse f = .error e ↔
      ∃ before name value after, m.entries = before ++ (name, value) :: after ∧
        (∀ entry ∈ before, ∃ result, f entry.1 entry.2 = .ok result) ∧
        f name value = .error e := by
  have hmap : ∀ (entry : String × α) (e' : ε),
      (f entry.1 entry.2).map (Prod.mk entry.1) = .error e' ↔ f entry.1 entry.2 = .error e' := by
    intro entry e'
    cases f entry.1 entry.2 <;> simp [Except.map]
  have hok : ∀ entry : String × α,
      (∃ result, (f entry.1 entry.2).map (Prod.mk entry.1) = .ok result) ↔
        ∃ result, f entry.1 entry.2 = .ok result := by
    intro entry
    cases f entry.1 entry.2 <;> simp [Except.map]
  rw [traverse_eq_error_iff, traverseEntries_eq_mapM, mapM_eq_error_iff]
  simp only [hmap, hok, Prod.exists]

/-- Entries that are left out are neither tried nor blamed. -/
theorem traverse_filter_eq_error_iff (f : String → α → Except ε β) (p : String → Bool)
    (m : OrderedMap α) (e : ε) :
    (m.filter p).traverse f = .error e ↔
      ∃ before name value after, m.entries = before ++ (name, value) :: after ∧ p name = true ∧
        (∀ entry ∈ before, p entry.1 = true → ∃ result, f entry.1 entry.2 = .ok result) ∧
        f name value = .error e := by
  rw [traverse_eq_error_iff_first]
  constructor
  · rintro ⟨before, name, value, after, hl, hbefore, hfail⟩
    obtain ⟨kept, others, hl, rfl, hothers⟩ := List.filter_eq_append_iff.mp hl
    obtain ⟨skipped, rest, rfl, hskipped, hp, -⟩ := List.filter_eq_cons_iff.mp hothers
    refine ⟨kept ++ skipped, name, value, rest, by rw [hl, List.append_assoc], hp, ?_, hfail⟩
    intro entry hentry hkeep
    rcases List.mem_append.mp hentry with hentry | hentry
    · exact hbefore entry (List.mem_filter.mpr ⟨hentry, hkeep⟩)
    · exact absurd hkeep (hskipped entry hentry)
  · rintro ⟨before, name, value, after, hl, hp, hbefore, hfail⟩
    refine ⟨before.filter fun entry => p entry.1, name, value,
      after.filter fun entry => p entry.1, ?_, fun entry hentry => ?_, hfail⟩
    · simp only [filter, hl, List.filter_append, List.filter_cons, hp, if_true]
    · obtain ⟨hentry, hkeep⟩ := List.mem_filter.mp hentry
      exact hbefore entry hentry hkeep

theorem fault?_traverse (f : String → α → Except ε β) (m : OrderedMap α) :
    fault? (m.traverse f)
      = (m.entries.filterMap fun entry => fault? (f entry.1 entry.2)).head? := by
  have hentries : fault? (m.traverse f) = fault? (traverseEntries f m.entries) := by
    cases h : m.traverse f with
    | error e => rw [(traverse_eq_error_iff f m e).mp h, fault?, fault?]
    | ok n => rw [(traverse_eq_ok_iff f m n).mp h, fault?, fault?]
  rw [hentries, traverseEntries_eq_mapM, fault?_mapM]
  simp only [fault?_map]

/-! ## 3. Two maps, one after the other -/

/-- The entries of one map written after those of another. -/
def append (m n : OrderedMap α) : OrderedMap α :=
  n.entries.foldl (fun m entry => m.insert entry.1 entry.2) m

/-- Maps without a name in common are joined entry list to entry list. -/
theorem entries_append {m n : OrderedMap α} (h : m.keys.Disjoint n.keys) :
    (m.append n).entries = m.entries ++ n.entries := by
  refine entries_foldl_insert n.entries m ?_
  rw [List.map_append]
  exact List.nodup_append'.mpr ⟨m.nodup, n.nodup, h⟩

theorem disjoint_keys_filter {m n : OrderedMap α} (h : m.keys.Disjoint n.keys)
    (p : String → Bool) : (m.filter p).keys.Disjoint (n.filter p).keys := by
  rw [keys_filter, keys_filter]
  exact fun name hm hn => h (List.mem_of_mem_filter hm) (List.mem_of_mem_filter hn)

/-- Names are left out of joined maps as they are left out of each. -/
theorem filter_append {m n : OrderedMap α} (h : m.keys.Disjoint n.keys) (p : String → Bool) :
    (m.append n).filter p = (m.filter p).append (n.filter p) := by
  have hfilter : ∀ k : OrderedMap α,
      (k.filter p).entries = k.entries.filter fun entry => p entry.1 := fun _ => rfl
  refine ext_entries ?_
  rw [entries_append (disjoint_keys_filter h p), hfilter, hfilter, hfilter, entries_append h,
    List.filter_append]

theorem keys_of_traverse {f : String → α → Except ε β} {m : OrderedMap α} {n : OrderedMap β}
    (h : m.traverse f = .ok n) : n.keys = m.keys :=
  keys_traverseEntries f m.entries n.entries ((traverse_eq_ok_iff f m n).mp h)

/-- **A pass over two maps** without a name in common is a pass over one and then over the
other. -/
theorem traverse_append_eq_ok_iff (f : String → α → Except ε β) {m n : OrderedMap α}
    (h : m.keys.Disjoint n.keys) (out : OrderedMap β) :
    (m.append n).traverse f = .ok out ↔
      ∃ first second, m.traverse f = .ok first ∧ n.traverse f = .ok second ∧
        out = first.append second := by
  have hentries : ∀ {first second : OrderedMap β}, m.traverse f = .ok first →
      n.traverse f = .ok second → (first.append second).entries = first.entries ++ second.entries :=
    fun hfirst hsecond =>
      entries_append (by rwa [keys_of_traverse hfirst, keys_of_traverse hsecond])
  rw [traverse_eq_ok_iff, entries_append h, traverseEntries_eq_mapM, mapM_append_eq_ok_iff]
  simp only [← traverseEntries_eq_mapM]
  constructor
  · rintro ⟨first, second, hfirst, hsecond, hout⟩
    have hfirst' : m.traverse f = .ok ⟨first, by
        rw [keys_traverseEntries f m.entries first hfirst]
        exact m.nodup⟩ := (traverse_eq_ok_iff f m _).mpr hfirst
    have hsecond' : n.traverse f = .ok ⟨second, by
        rw [keys_traverseEntries f n.entries second hsecond]
        exact n.nodup⟩ := (traverse_eq_ok_iff f n _).mpr hsecond
    refine ⟨_, _, hfirst', hsecond', ext_entries ?_⟩
    rw [hentries hfirst' hsecond', hout]
  · rintro ⟨first, second, hfirst, hsecond, rfl⟩
    exact ⟨first.entries, second.entries, (traverse_eq_ok_iff f m first).mp hfirst,
      (traverse_eq_ok_iff f n second).mp hsecond, hentries hfirst hsecond⟩

end OrderedMap

end FieldRules

/-
# What compilation looks at

A definition may hold anything, but few of its parts have a say in what is compiled.  Whether two
definitions agree wherever compilation looks is a relation between them (`Json.Agrees`): both have
a `not` or neither has; in the definitions that count, every keyword but `not` and `allOf` has the
same value or is absent from both; and what stands under `allOf` is absent from both, or is no
array in either, or is two arrays of parts that agree one by one.  Parts agree in the same sense,
except that of their own `allOf` it only matters whether it is there (`Json.AgreesAlone`).

Properties made of such definitions read alike, so they have the same clauses and fail alike
(`compileProperty_eq`), and tables of such definitions are compiled to the same or fail alike
(`compile_eq_of_agrees`).  So nothing hangs on unknown keywords, on keywords that are null, on the
order of keywords, on what stands beside a `not`, or on what stands in the `allOf` of a part.
-/
import FieldRules.Proofs.RuleTable.Fragments

namespace FieldRules

namespace Json

/-! ## 1. Definitions that agree -/

/-- Two definitions that agree wherever rules look, with `allOf`s that are the `same` in a sense
that is left open. -/
structure AgreesUpTo (same : Option Json → Option Json → Prop) (d e : Json) : Prop where
  not_eq : (d.keyword? .not).isSome = (e.keyword? .not).isSome
  keyword_eq : ∀ key, key ≠ .not → key ≠ .allOf →
    d.effective.keyword? key = e.effective.keyword? key
  allOf : same (d.effective.keyword? .allOf) (e.effective.keyword? .allOf)

/-- Agreement of two parts: an `allOf` is in both or in neither. -/
def AgreesAlone : Json → Json → Prop := AgreesUpTo fun a b => a.isSome = b.isSome

/-- Agreement of what stands under `allOf`. -/
inductive PartsAgree : Option Json → Option Json → Prop
  | absent : PartsAgree none none
  | noArrays {a b : Json} : a.array? = none → b.array? = none → PartsAgree (some a) (some b)
  | arrays {as bs : List Json} : List.Forall₂ AgreesAlone as bs →
      PartsAgree (some (.array as)) (some (.array bs))

/-- Agreement of two definitions. -/
def Agrees : Json → Json → Prop := AgreesUpTo PartsAgree

theorem agreesAlone_refl (d : Json) : d.AgreesAlone d := ⟨rfl, fun _ _ _ => rfl, rfl⟩

theorem PartsAgree.refl : ∀ a : Option Json, PartsAgree a a
  | none => .absent
  | some (.array _) => .arrays (List.forall₂_same.mpr fun d _ => d.agreesAlone_refl)
  | some .null | some (.bool _) | some (.integer _) | some (.float _) | some (.string _)
  | some (.object _) => .noArrays rfl rfl

/-- An `allOf` that agrees with another is there when the other is. -/
theorem PartsAgree.isSome_eq {a b : Option Json} (h : PartsAgree a b) : a.isSome = b.isSome := by
  cases h <;> rfl

/-- The items under `allOf`s that agree do so one by one; where there is no array there are none. -/
theorem PartsAgree.items {a b : Option Json} (h : PartsAgree a b) :
    List.Forall₂ AgreesAlone ((a.bind array?).getD []) ((b.bind array?).getD []) := by
  cases h with
  | absent => exact .nil
  | noArrays ha hb =>
    rw [Option.bind_some, Option.bind_some, ha, hb]
    exact .nil
  | arrays hparts => exact hparts

variable {d e : Json}

theorem Agrees.agreesAlone (h : d.Agrees e) : d.AgreesAlone e :=
  ⟨h.not_eq, h.keyword_eq, h.allOf.isSome_eq⟩

/-- The parts of definitions that agree do so one by one. -/
theorem Agrees.parts (h : d.Agrees e) : List.Forall₂ AgreesAlone d.parts e.parts :=
  PartsAgree.items h.allOf

/-- Definitions that count and have the same value under every keyword agree. -/
theorem agrees_of_effective (hnot : (d.keyword? .not).isSome = (e.keyword? .not).isSome)
    (h : ∀ key, d.effective.keyword? key = e.effective.keyword? key) : d.Agrees e := by
  refine ⟨hnot, fun key _ _ => h key, ?_⟩
  rw [h .allOf]
  exact .refl _

/-- Nothing hangs on what is under no keyword, on a null or on the order. -/
theorem agrees_of_keyword?_eq (h : ∀ key, d.keyword? key = e.keyword? key) : d.Agrees e := by
  refine agrees_of_effective (by rw [h .not]) fun key => ?_
  unfold effective
  rw [h .not]
  cases e.keyword? .not with
  | none => exact h key
  | some inner => rfl

/-- Nothing hangs on what stands beside a `not`. -/
theorem agrees_of_not {inner : Json} (hd : d.keyword? .not = some inner)
    (he : e.keyword? .not = some inner) : d.Agrees e := by
  refine agrees_of_effective (by rw [hd, he]) fun key => ?_
  rw [effective, effective, hd, he, Option.getD_some, Option.getD_some]

end Json

/-! ## 2. Properties -/

variable {d e : Json}

/-- Properties made of definitions that agree read alike, wherever they stand. -/
theorem Property.readsAlike_of_agreesAlone (h : d.AgreesAlone e) (name other : String)
    (path place : FieldPath) :
    ReadsAlike (ofDefinition name path d) (ofDefinition other place e) := by
  constructor
  · rw [modifier_ofDefinition, modifier_ofDefinition, h.not_eq, h.allOf]
  · intro key hnot hall
    rw [option?_ofDefinition, option?_ofDefinition]
    exact h.keyword_eq key hnot hall

theorem Property.clauses_of_agreesAlone (h : d.AgreesAlone e) (name : String) (path : FieldPath) :
    (ofDefinition name path d).clauses = (ofDefinition name path e).clauses :=
  (readsAlike_of_agreesAlone h name name path path).clauses_eq rfl rfl

/-- Of properties one after the other only their clauses count. -/
theorem clausesOfAll_congr {properties others : List Property}
    (h : properties.map Property.clauses = others.map Property.clauses) :
    clausesOfAll properties = clausesOfAll others := by
  have hpass : ∀ l : List Property, l.mapM Property.clauses = (l.map Property.clauses).mapM id := by
    intro l
    rw [List.mapM_map]
    rfl
  rw [clausesOfAll_eq_mapM, clausesOfAll_eq_mapM, hpass, hpass, h]

/-- Parts that agree have the same clauses, each at its index. -/
theorem map_clauses_mapIdx {parts others : List Json}
    (h : List.Forall₂ Json.AgreesAlone parts others) (name : String) (place : Nat → FieldPath) :
    (parts.mapIdx fun i part => Property.ofDefinition name (place i) part).map Property.clauses
      = (others.mapIdx fun i part => Property.ofDefinition name (place i) part).map
          Property.clauses := by
  induction h generalizing place with
  | nil => rfl
  | cons hpart hrest ih =>
    rw [List.mapIdx_cons, List.mapIdx_cons, List.map_cons, List.map_cons, ih fun i => place (i + 1),
      Property.clauses_of_agreesAlone hpart]

/-- **Definitions that agree are compiled to the same clauses**, or fail alike. -/
theorem compileProperty_eq (h : d.Agrees e) (name : String) :
    compileProperty name d = compileProperty name e := by
  refine clausesOfAll_congr ?_
  rw [Property.topLevel, Property.topLevel, Property.members_ofDefinition,
    Property.members_ofDefinition, List.map_cons, List.map_cons,
    Property.clauses_of_agreesAlone h.agreesAlone, map_clauses_mapIdx h.parts]

/-! ## 3. Tables -/

namespace RuleTable

/-- Entries of one name whose definitions agree. -/
def EntriesAgree (a b : String × Json) : Prop := a.1 = b.1 ∧ a.2.Agrees b.2

theorem traverseEntries_eq {entries others : List (String × Json)}
    (h : List.Forall₂ EntriesAgree entries others) :
    OrderedMap.traverseEntries compileProperty entries
      = OrderedMap.traverseEntries compileProperty others := by
  induction h with
  | nil => rfl
  | @cons a b _ _ hentry hrest ih =>
    obtain ⟨name, d⟩ := a
    obtain ⟨other, e⟩ := b
    obtain ⟨rfl, hagrees⟩ := hentry
    rw [OrderedMap.traverseEntries, OrderedMap.traverseEntries, ih, compileProperty_eq hagrees]

/-- **Compilation looks at nothing but the keywords it knows.**  Let two property tables have the
same names in the same order, and let the definitions under each name agree: then both are
compiled to the same table, or both fail with the same failure.  Definitions agree in particular
when they have the same value under every keyword, whatever else is in them and in what order, and
when the same definition stands under a `not` in both, whatever is beside it. -/
theorem compile_eq_of_agrees :
    (∀ (idField : String) (properties others : OrderedMap Json),
      List.Forall₂ EntriesAgree properties.entries others.entries →
      compile idField properties = compile idField others) ∧
    (∀ d e : Json, (∀ key : Keyword, d.keyword? key = e.keyword? key) → d.Agrees e) ∧
    (∀ d e inner : Json, d.keyword? .not = some inner → e.keyword? .not = some inner →
      d.Agrees e) := by
  refine ⟨fun idField properties others h => ?_, fun d e => Json.agrees_of_keyword?_eq,
    fun d e inner => Json.agrees_of_not⟩
  have hkept : List.Forall₂ EntriesAgree (properties.filter (· ≠ idField)).entries
      (others.filter (· ≠ idField)).entries := by
    refine List.rel_filter (fun a b hentry => ?_) h
    simp only [hentry.1]
  have hentries := traverseEntries_eq hkept
  rw [compile, compile]
  cases hresult : (others.filter (· ≠ idField)).traverse compileProperty with
  | error failure =>
    rw [OrderedMap.traverse_eq_error_iff, hentries, ← OrderedMap.traverse_eq_error_iff]
    exact hresult
  | ok table =>
    rw [OrderedMap.traverse_eq_ok_iff, hentries, ← OrderedMap.traverse_eq_ok_iff]
    exact hresult

/-! ### Two tables

The definitions of `code` have a `not` with two parts each, and agree wherever rules look.
Otherwise they differ: the second has keywords beside its `not` and another `not` inside it, nulls,
keywords that no rule knows, another order, and another `allOf` in its first part. -/

def plainPart : Json :=
  .object [("type", .string "string"), ("format", .string "email"),
    ("allOf", .array [.object [("enum", .array [.string "lost"])]])]

def ornatePart : Json :=
  .object [("allOf", .integer 3), ("pattern", .null), ("format", .string "email"),
    ("type", .string "string"), ("title", .string "address")]

/-- A part that both definitions have. -/
def deniedPart : Json := .object [("not", .object [("enum", .array [.string "x"])])]

def plainDefinition : Json :=
  .object [("not", .object [("type", .string "string"), ("minLength", .integer 2),
    ("allOf", .array [plainPart, deniedPart])])]

def ornateDefinition : Json :=
  .object [("type", .string "array"), ("$ref", .string "#"),
    ("not", .object [("anyOf", .array []), ("allOf", .array [ornatePart, deniedPart]),
      ("not", .object [("type", .string "boolean")]), ("maxLength", .null),
      ("minLength", .integer 2), ("type", .string "string")])]

theorem agreesAlone_ornatePart : plainPart.AgreesAlone ornatePart := by
  refine ⟨rfl, fun key hnot hall => ?_, rfl⟩
  cases key with
  | not => exact absurd rfl hnot
  | allOf => exact absurd rfl hall
  | _ => rfl

theorem agrees_ornateDefinition : plainDefinition.Agrees ornateDefinition := by
  refine ⟨rfl, fun key hnot hall => ?_, ?_⟩
  · cases key with
    | not => exact absurd rfl hnot
    | allOf => exact absurd rfl hall
    | _ => rfl
  · exact .arrays (.cons agreesAlone_ornatePart (.cons deniedPart.agreesAlone_refl .nil))

theorem compile_eq_of_agrees_ornateDefinition :
    compile "id" (.ofList [("id", .null), ("code", plainDefinition)])
        = compile "id" (.ofList [("id", .bool true), ("code", ornateDefinition)]) ∧
      compile "id" (.ofList [("id", .bool true), ("code", ornateDefinition)])
        = .ok (.ofList [("code", [⟨"min", ["2"]⟩, ⟨"email", []⟩, ⟨"not_in", ["x"]⟩])]) ∧
      plainPart.Agrees (.object [("allOf", .array [.object [("enum", .array [.string "lost"])]]),
        ("$ref", .null), ("format", .string "email"), ("type", .string "string")]) ∧
      deniedPart.Agrees (.object [("pattern", .string "^a"),
        ("not", .object [("enum", .array [.string "x"])])]) := by
  obtain ⟨htables, hkeywords, hnot⟩ := compile_eq_of_agrees
  have hid : Json.null.Agrees (.bool true) := hkeywords _ _ fun _ => rfl
  refine ⟨htables "id" _ _ ?_, by decide +kernel, hkeywords _ _ fun key => ?_,
    hnot _ _ (.object [("enum", .array [.string "x"])]) rfl rfl⟩
  · exact .cons ⟨rfl, hid⟩ (.cons ⟨rfl, agrees_ornateDefinition⟩ .nil)
  · cases key <;> rfl

end RuleTable

end FieldRules

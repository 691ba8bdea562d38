/-
# The rules that apply, in order

`Rule.all` holds every kind of rule once, in increasing order of identifiers (`mem_all`,
`increasing_all`).

Each kind has a check of its own, which may fail.  What it asks of a property is said here without
failures, for a type that is known (`Rule.holds`), and one case for each kind shows that the checks
ask just that of a property with a type (`applies_of_type`).  On a property without one every check
runs into the missing type, but for the two of listed values (`applies_of_untyped`).  Hence the
clauses of a property with a type are those of the kinds that hold for it (`clauses_of_type`), and
a property without one has no clauses at all (`clauses_of_untyped`).

Which kinds apply, and what their clauses are, hangs on the modifier of a property and on the
values of its keywords, `not` and `allOf` apart (`ReadsAlike.holds_eq`, `ReadsAlike.clause_eq`).
-/
import FieldRules.Proofs.Property.Definition
import FieldRules.Rule.Evaluation

namespace FieldRules

namespace Rule

/-! ## 1. The order of kinds -/

/-- Kinds in strictly increasing order of identifiers: each stands there at most once. -/
def Increasing (kinds : List Rule) : Prop :=
  kinds.Pairwise fun a b => a.identifier < b.identifier

theorem Increasing.nodup {kinds : List Rule} (h : Increasing kinds) : kinds.Nodup :=
  List.Pairwise.imp (fun hlt heq => absurd (heq ▸ hlt) (lt_irrefl _)) h

/-- Kinds in order are given by which kinds they are. -/
theorem Increasing.eq_of_mem_iff {kinds others : List Rule} (h : Increasing kinds)
    (h' : Increasing others) (hmem : ∀ rule, rule ∈ kinds ↔ rule ∈ others) : kinds = others := by
  have hperm : kinds.Perm others := (List.perm_ext_iff_of_nodup h.nodup h'.nodup).mpr hmem
  exact hperm.eq_of_pairwise
    (fun a b _ _ hab hba => absurd (hab.trans hba) (lt_irrefl _)) h h'

theorem mem_insertInOrder {rule other : Rule} : ∀ {kinds : List Rule},
    other ∈ insertInOrder rule kinds ↔ other = rule ∨ other ∈ kinds
  | [] => by simp [insertInOrder]
  | first :: rest => by
    have ih : other ∈ insertInOrder rule rest ↔ other = rule ∨ other ∈ rest := mem_insertInOrder
    unfold insertInOrder
    split
    · exact List.mem_cons
    · split
      · rename_i heq
        subst heq
        simp
      · rw [List.mem_cons, ih, List.mem_cons]
        tauto

/-- Putting a kind in keeps the order. -/
theorem Increasing.insertInOrder {rule : Rule} : ∀ {kinds : List Rule},
    Increasing kinds → Increasing (insertInOrder rule kinds)
  | [], _ => List.pairwise_singleton _ _
  | first :: rest, h => by
    obtain ⟨hfirst, hrest⟩ := List.pairwise_cons.mp h
    unfold Rule.insertInOrder
    split
    · rename_i hlt
      refine List.pairwise_cons.mpr ⟨fun other hother => ?_, h⟩
      rcases List.mem_cons.mp hother with rfl | hother
      · exact hlt
      · exact hlt.trans (hfirst other hother)
    · split
      · exact h
      · rename_i hnlt hne
        refine List.pairwise_cons.mpr ⟨fun other hother => ?_, Increasing.insertInOrder hrest⟩
        rcases mem_insertInOrder.mp hother with rfl | hother
        · -- the identifiers differ, as the kinds do
          exact lt_of_le_of_ne (not_lt.mp hnlt) fun heq => hne (identifier_injective heq.symm)
        · exact hfirst other hother

theorem mem_inOrder {rule : Rule} : ∀ {kinds : List Rule}, rule ∈ inOrder kinds ↔ rule ∈ kinds
  | [] => Iff.rfl
  | first :: rest => by
    rw [inOrder, mem_insertInOrder, mem_inOrder, List.mem_cons]

/-- **Putting kinds in order** orders them, whatever the list. -/
theorem increasing_inOrder : ∀ kinds : List Rule, Increasing (inOrder kinds)
  | [] => List.Pairwise.nil
  | _ :: rest => (increasing_inOrder rest).insertInOrder

/-- Every kind is there. -/
theorem mem_all (rule : Rule) : rule ∈ all := by
  rw [all, mem_inOrder]
  cases rule <;> decide

theorem increasing_all : Increasing all := increasing_inOrder registered

end Rule

/-! ## 2. What checks read -/

namespace Property

variable {p : Property} {type : String} {e : UntypedProperty}

theorem isOf_of_type (h : p.type = .ok type) (family : TypeFamily) :
    p.isOf family = .ok (family.holds type) := by
  rw [isOf, h]
  rfl

theorem sizedBounds?_of_type (h : p.type = .ok type) :
    p.sizedBounds? = .ok (if isSizedType type then some (Bounds.of p type) else none) := by
  rw [sizedBounds?, h]
  cases hsized : isSizedType type <;> simp [bind, Except.bind, pure, Except.pure, hsized]

theorem stringFormat?_of_type (h : p.type = .ok type) :
    p.stringFormat? = .ok (if TypeFamily.string.holds type then p.text? .format else none) := by
  rw [stringFormat?, isOf_of_type h]
  cases hstring : TypeFamily.string.holds type <;> rfl

theorem hasStringPattern_of_type (h : p.type = .ok type) :
    p.hasStringPattern = .ok (TypeFamily.string.holds type && p.hasOption .pattern) := by
  rw [hasStringPattern, isOf_of_type h]
  rfl

/-- Each of these looks at the type, so a missing one is handed on. -/
theorem isOf_of_untyped (h : p.type = .error e) (family : TypeFamily) :
    p.isOf family = .error e := by
  rw [isOf, h]
  rfl

theorem sizedBounds?_of_untyped (h : p.type = .error e) : p.sizedBounds? = .error e := by
  rw [sizedBounds?, h]
  rfl

theorem stringFormat?_of_untyped (h : p.type = .error e) : p.stringFormat? = .error e := by
  rw [stringFormat?, isOf_of_untyped h]
  rfl

theorem hasStringPattern_of_untyped (h : p.type = .error e) : p.hasStringPattern = .error e := by
  rw [hasStringPattern, isOf_of_untyped h]
  rfl

end Property

/-! ## 3. Checks on a property with a type -/

/-- Whether a property has a format that passes the test. -/
def Property.hasFormat (p : Property) (test : String → Bool) : Bool := (p.text? .format).any test

namespace Rule

open Property

variable {p : Property} {type : String} {e : UntypedProperty}

/-- What a kind of rule asks of a property and of a type that is known. -/
def holds (rule : Rule) (p : Property) (type : String) : Bool :=
  match rule with
  | array => TypeFamily.array.holds type
  | boolean => TypeFamily.boolean.holds type
  | numeric => TypeFamily.numeric.holds type
  | distinct => TypeFamily.array.holds type &&
      (p.option? .uniqueItems).any fun value => value.equal (.bool true)
  | multipleOf => TypeFamily.numeric.holds type && p.hasOption .multipleOf
  | min => isSizedType type && (Bounds.of p type).low.isSome && (Bounds.of p type).distinct
  | max => isSizedType type && (Bounds.of p type).high.isSome && (Bounds.of p type).distinct
  | between => isSizedType type && (Bounds.of p type).low.isSome &&
      (Bounds.of p type).high.isSome && (Bounds.of p type).distinct
  | size => isSizedType type && (Bounds.of p type).low.isSome &&
      (Bounds.of p type).high.isSome && !(Bounds.of p type).distinct
  | date => TypeFamily.string.holds type && p.hasFormat fun f => f = "date" || f = "date-time"
  | dateFormat => TypeFamily.string.holds type && p.hasFormat fun f => (dateLayout? f).isSome
  | email => TypeFamily.string.holds type && p.hasFormat fun f => f = "email"
  | url => TypeFamily.string.holds type && p.hasFormat fun f => f = "uri"
  | ipAddress => TypeFamily.string.holds type && p.hasFormat fun f => f = "ipv4" || f = "ipv6"
  | image => TypeFamily.string.holds type && p.holdsImage
  | regex => TypeFamily.string.holds type && p.hasOption .pattern && !p.denies
  | notRegex => TypeFamily.string.holds type && p.hasOption .pattern && p.denies
  | oneOf => p.hasOption .enum && !p.denies
  | noneOf => p.hasOption .enum && p.denies

/-- **With a type, a kind applies when it holds for the type.** -/
theorem applies_of_type (h : p.type = .ok type) (rule : Rule) :
    rule.applies p = .ok (rule.holds p type) := by
  cases rule with
  | array | boolean | numeric => exact isOf_of_type h _
  | distinct | multipleOf | image =>
    simp only [applies, isOf_of_type h, holds]
    cases TypeFamily.holds _ type <;> rfl
  | min | max | between | size =>
    simp only [applies, sizedBounds?_of_type h, holds]
    cases isSizedType type <;> rfl
  | date | dateFormat | email | url | ipAddress =>
    simp only [applies, stringFormat?_of_type h, holds, hasFormat]
    cases TypeFamily.string.holds type <;> cases p.text? .format <;>
      simp [bind, Except.bind, pure, Except.pure]
  | regex | notRegex =>
    simp only [applies, hasStringPattern_of_type h, holds]
    rfl
  | oneOf | noneOf => rw [applies, holds, Bool.and_comm]

theorem evaluate_of_type (h : p.type = .ok type) (rule : Rule) :
    rule.evaluate p = .ok (if rule.holds p type then some (rule.clause p) else none) := by
  rw [evaluate, applies_of_type h]
  rfl

theorem evaluateAll_of_type (h : p.type = .ok type) :
    ∀ kinds : List Rule, evaluateAll kinds p
      = .ok ((kinds.filter fun rule => rule.holds p type).map fun rule => rule.clause p)
  | [] => rfl
  | rule :: rest => by
    have ih := evaluateAll_of_type h rest
    cases hholds : rule.holds p type with
    | true => simp [evaluateAll, evaluate, applies_of_type h, hholds, ih, Except.map]
    | false => simp [evaluateAll, evaluate, applies_of_type h, hholds, ih, Except.map]

/-! ## 4. Checks on a property without a type -/

/-- The kinds that ask for listed values, and for nothing else. -/
def enumKinds : List Rule := [oneOf, noneOf]

/-- **Without a type every check fails for want of it**, but for the two of listed values. -/
theorem applies_of_untyped (h : p.type = .error e) {rule : Rule} (hrule : rule ∉ enumKinds) :
    rule.applies p = .error e := by
  -- whatever else a check asks for, it reads the type before it gives an answer
  cases rule with
  | oneOf | noneOf => exact absurd (by decide) hrule
  | array | boolean | numeric => exact isOf_of_untyped h _
  | distinct | multipleOf | image =>
    rw [applies, isOf_of_untyped h]
    rfl
  | min | max | between | size =>
    rw [applies, sizedBounds?_of_untyped h]
    rfl
  | date | dateFormat | email | url | ipAddress =>
    rw [applies, stringFormat?_of_untyped h]
    rfl
  | regex | notRegex =>
    rw [applies, hasStringPattern_of_untyped h]
    rfl

/-- These two never ask for the type, and find no values listed. -/
theorem applies_of_untyped_of_mem (h : p.type = .error e) {rule : Rule} (hrule : rule ∈ enumKinds) :
    rule.applies p = .ok false := by
  have henum := hasOption_enum_of_untyped h
  simp only [enumKinds, List.mem_cons, List.not_mem_nil, or_false] at hrule
  rcases hrule with rfl | rfl <;> simp [applies, henum]

theorem evaluate_of_untyped (h : p.type = .error e) {rule : Rule} (hrule : rule ∉ enumKinds) :
    rule.evaluate p = .error e := by
  rw [evaluate, applies_of_untyped h hrule]
  rfl

theorem evaluate_of_untyped_of_mem (h : p.type = .error e) {rule : Rule}
    (hrule : rule ∈ enumKinds) : rule.evaluate p = .ok none := by
  rw [evaluate, applies_of_untyped_of_mem h hrule]
  rfl

/-- One kind that asks for the type stops a property without one. -/
theorem evaluateAll_of_untyped (h : p.type = .error e) : ∀ {kinds : List Rule},
    (∃ rule ∈ kinds, rule ∉ enumKinds) → evaluateAll kinds p = .error e
  | [], hasks => by
    obtain ⟨rule, hmem, -⟩ := hasks
    cases hmem
  | rule :: rest, hasks => by
    by_cases hrule : rule ∈ enumKinds
    · have hrest : ∃ other ∈ rest, other ∉ enumKinds := by
        obtain ⟨other, hmem, hother⟩ := hasks
        rcases List.mem_cons.mp hmem with rfl | hmem
        · exact absurd hrule hother
        · exact ⟨other, hmem, hother⟩
      have ih := evaluateAll_of_untyped h hrest
      simp [evaluateAll, evaluate_of_untyped_of_mem h hrule, ih]
    · simp [evaluateAll, evaluate_of_untyped h hrule]

end Rule

namespace Property

theorem clauses_of_type {p : Property} {type : String} (h : p.type = .ok type) :
    p.clauses
      = .ok ((Rule.all.filter fun rule => rule.holds p type).map fun rule => rule.clause p) :=
  Rule.evaluateAll_of_type h Rule.all

theorem clauses_of_untyped {p : Property} {e : UntypedProperty} (h : p.type = .error e) :
    p.clauses = .error e :=
  Rule.evaluateAll_of_untyped h ⟨.array, Rule.mem_all .array, by decide⟩

/-! ## 5. Properties that read alike -/

namespace ReadsAlike

variable {p q : Property}

theorem text?_eq (h : ReadsAlike p q) (key : Keyword) (hnot : key ≠ .not) (hall : key ≠ .allOf) :
    p.text? key = q.text? key := by
  rw [text?, text?, h.option_eq key hnot hall]

theorem parameter_eq (h : ReadsAlike p q) (key : Keyword) (hnot : key ≠ .not)
    (hall : key ≠ .allOf) : p.parameter key = q.parameter key := by
  rw [parameter, parameter, h.option_eq key hnot hall]

theorem denies_eq (h : ReadsAlike p q) : p.denies = q.denies := by
  rw [denies, denies, h.modifier_eq]

/-- The keywords of bounds are neither `not` nor `allOf`. -/
theorem boundsOf_eq (h : ReadsAlike p q) (type : String) : Bounds.of p type = Bounds.of q type := by
  unfold Bounds.of Bounds.keywords
  split_ifs
  · rw [h.option_eq .minLength nofun nofun, h.option_eq .maxLength nofun nofun]
  · rw [h.option_eq .minItems nofun nofun, h.option_eq .maxItems nofun nofun]
  · rw [h.option_eq .minimum nofun nofun, h.option_eq .maximum nofun nofun]

theorem hasFormat_eq (h : ReadsAlike p q) (test : String → Bool) :
    p.hasFormat test = q.hasFormat test := by
  rw [hasFormat, hasFormat, h.text?_eq .format nofun nofun]

theorem holdsImage_eq (h : ReadsAlike p q) : p.holdsImage = q.holdsImage := by
  rw [holdsImage, holdsImage, h.text?_eq .contentEncoding nofun nofun,
    h.text?_eq .contentMediaType nofun nofun]

/-- **Which kinds hold is read off the modifier and the other keywords.** -/
theorem holds_eq (h : ReadsAlike p q) (rule : Rule) (type : String) :
    rule.holds p type = rule.holds q type := by
  cases rule with
  | array | boolean | numeric => rfl
  | distinct => simp only [Rule.holds, h.option_eq .uniqueItems nofun nofun]
  | multipleOf => simp only [Rule.holds, h.hasOption_eq .multipleOf nofun nofun]
  | min | max | between | size => simp only [Rule.holds, h.boundsOf_eq]
  | date | dateFormat | email | url | ipAddress => simp only [Rule.holds, h.hasFormat_eq]
  | image => simp only [Rule.holds, h.holdsImage_eq]
  | regex | notRegex =>
    simp only [Rule.holds, h.hasOption_eq .pattern nofun nofun, h.denies_eq]
  | oneOf | noneOf => simp only [Rule.holds, h.hasOption_eq .enum nofun nofun, h.denies_eq]

/-- **So are the clauses**, for properties of one type. -/
theorem clause_eq (h : ReadsAlike p q) {type : String} (hp : p.type = .ok type)
    (hq : q.type = .ok type) (rule : Rule) : rule.clause p = rule.clause q := by
  have hbounds : p.bounds = q.bounds := by
    rw [bounds, bounds, hp, hq]
    exact h.boundsOf_eq type
  have henum : p.enumParameters = q.enumParameters := by
    rw [enumParameters, enumParameters, h.option_eq .enum nofun nofun]
  cases rule with
  | multipleOf => simp only [Rule.clause, h.parameter_eq .multipleOf nofun nofun]
  | min | max | between | size => simp only [Rule.clause, hbounds]
  | dateFormat => simp only [Rule.clause, h.text?_eq .format nofun nofun]
  | regex | notRegex => simp only [Rule.clause, h.parameter_eq .pattern nofun nofun]
  | oneOf | noneOf => simp only [Rule.clause, henum]
  | _ => rfl

/-- **Properties of one name and one path that read alike have the same clauses**, or fail
alike. -/
theorem clauses_eq (h : ReadsAlike p q) (hname : p.name = q.name) (hpath : p.path = q.path) :
    p.clauses = q.clauses := by
  have htype := h.type_eq hname hpath
  cases hq : q.type with
  | error e => rw [clauses_of_untyped hq, clauses_of_untyped (htype.trans hq)]
  | ok type =>
    rw [clauses_of_type hq, clauses_of_type (htype.trans hq)]
    have hkinds : (Rule.all.filter fun rule => rule.holds p type)
        = Rule.all.filter fun rule => rule.holds q type :=
      List.filter_congr fun rule _ => h.holds_eq rule type
    rw [hkinds]
    exact congrArg Except.ok
      (List.map_congr_left fun rule _ => h.clause_eq (htype.trans hq) hq rule)

end ReadsAlike

end Property

end FieldRules

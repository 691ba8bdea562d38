/-
# What a clause is written from

Whether a rule applies and what its clause says are found in two places, and each looks up the
options for itself.  A look-up for the clause that finds nothing writes an empty parameter.  This
file shows that no such parameter is ever written: a rule that applies finds all that its clause is
written from.

`Rendered` says what that is, for each kind of rule, and has no case for a value that is missing: a
value is an option that is there and not null (`Property.Has`), bounds are looked up under the
keywords of a type that the property has, and a layout is that of the format.  A rule that applies
has a clause rendered so (`rendered_of_holds`), and no clause but its own is
(`clause_eq_of_rendered`).
-/
import FieldRules.Proofs.RuleTable.Negation
import FieldRules.Proofs.Rule.Bounds
import FieldRules.Proofs.Rule.MissingType
import FieldRules.Proofs.Rule.Pattern

namespace FieldRules

/-! ## 1. Values that are there -/

/-- A property has a value under a keyword: the option is there, and it is not null. -/
def Property.Has (p : Property) (key : Keyword) (value : Json) : Prop :=
  p.options.lookup key.name = some value ∧ value ≠ .null

section

variable {p : Property} {key : Keyword} {value : Json}

theorem Property.has_iff : p.Has key value ↔ p.option? key = some value := by
  have hnull : value.isNull = false ↔ value ≠ .null := by cases value <;> simp [Json.isNull]
  simp [Property.Has, Property.option?, Property.optionNamed?, Json.option?,
    Option.filter_eq_some_iff, hnull]

theorem Property.exists_has (h : (p.option? key).isSome) : ∃ value, p.Has key value := by
  obtain ⟨value, hvalue⟩ := Option.isSome_iff_exists.mp h
  exact ⟨value, Property.has_iff.mpr hvalue⟩

theorem Property.has_text_iff {text : String} :
    p.Has key (.string text) ↔ p.text? key = some text := by
  rw [Property.has_iff, Property.text?]
  cases p.option? key with
  | none => simp
  | some value => cases value <;> simp [Json.string?]

end

/-- The formats that have a layout, each before its layout. -/
def dateLayouts : List (String × String) :=
  [("full-date full-time", "Y-m-d h:i:s"), ("full-date", "Y-m-d"), ("full-time", "h:i:s")]

theorem dateLayout?_eq_some_iff {format layout : String} :
    dateLayout? format = some layout ↔ (format, layout) ∈ dateLayouts := by
  unfold dateLayout? dateLayouts
  split_ifs <;> simp_all [eq_comm]

namespace Rule

/-! ## 2. Clauses written from such values -/

/-- The name of the clause of a kind of rule that has no parameters. -/
def plainName? : Rule → Option String
  | array => some "array"
  | boolean => some "boolean"
  | numeric => some "numeric"
  | distinct => some "distinct"
  | date => some "date"
  | email => some "email"
  | url => some "url"
  | ipAddress => some "ip"
  | image => some "image"
  | _ => none

/-- A clause of a rule for a property, written from values that the property has. -/
inductive Rendered (p : Property) : Rule → Clause → Prop
  | plain {rule : Rule} {name : String} (h : rule.plainName? = some name) :
      Rendered p rule ⟨name, []⟩
  | least {type : String} {low high : Keyword} {value : Json} (htype : p.type = .ok type)
      (hkeys : boundKeywords? type = some (low, high)) (hlow : p.Has low value) :
      Rendered p min ⟨"min", [value.parameter]⟩
  | most {type : String} {low high : Keyword} {value : Json} (htype : p.type = .ok type)
      (hkeys : boundKeywords? type = some (low, high)) (hhigh : p.Has high value) :
      Rendered p max ⟨"max", [value.parameter]⟩
  | range {type : String} {low high : Keyword} {value other : Json} (htype : p.type = .ok type)
      (hkeys : boundKeywords? type = some (low, high)) (hlow : p.Has low value)
      (hhigh : p.Has high other) :
      Rendered p between ⟨"between", [value.parameter, other.parameter]⟩
  | exact {type : String} {low high : Keyword} {value other : Json} (htype : p.type = .ok type)
      (hkeys : boundKeywords? type = some (low, high)) (hlow : p.Has low value)
      (hhigh : p.Has high other) (hequal : value.equal other) :
      Rendered p size ⟨"size", [value.parameter]⟩
  | multiple {value : Json} (h : p.Has .multipleOf value) :
      Rendered p multipleOf ⟨"multiple_of", [value.parameter]⟩
  | layout {format layout : String} (h : p.Has .format (.string format))
      (hlayout : (format, layout) ∈ dateLayouts) : Rendered p dateFormat ⟨"date_format", [layout]⟩
  | matched {value : Json} {left : List Char} {c : Clause} (h : p.Has .pattern value)
      (hleft : Pattern.Stripped value.parameter left)
      (hreading : Pattern.Reading value.parameter left c) : Rendered p regex c
  | unmatched {value : Json} (h : p.Has .pattern value) :
      Rendered p notRegex ⟨"not_regex", [value.parameter]⟩
  | listed {value : Json} (h : p.Has .enum value) : Rendered p oneOf ⟨"in", value.listedParameters⟩
  | unlisted {value : Json} (h : p.Has .enum value) :
      Rendered p noneOf ⟨"not_in", value.listedParameters⟩

section

variable {p : Property} {type : String}

/-- A type whose values have a size has keywords for its bounds, and there the bounds are. -/
theorem exists_boundKeywords (hsized : isSizedType type) (p : Property) :
    ∃ low high, boundKeywords? type = some (low, high) ∧
      Bounds.of p type = ⟨p.option? low, p.option? high⟩ := by
  cases hkeys : boundKeywords? type with
  | none =>
    rw [isSizedType_of_boundKeywords?_eq_none hkeys] at hsized
    cases hsized
  | some keys => exact ⟨keys.1, keys.2, rfl, (of_boundKeywords?_eq_some hkeys p).2⟩

/-- Where both bounds are there, each is a value under its keyword. -/
theorem exists_bounds (hsized : isSizedType type) (hlow : (Bounds.of p type).low.isSome)
    (hhigh : (Bounds.of p type).high.isSome) :
    ∃ low high value other, boundKeywords? type = some (low, high) ∧ p.Has low value ∧
      p.Has high other ∧ Bounds.of p type = ⟨some value, some other⟩ := by
  obtain ⟨low, high, hkeys, hbounds⟩ := exists_boundKeywords hsized p
  rw [hbounds] at hlow hhigh
  obtain ⟨value, hvalue⟩ := Property.exists_has hlow
  obtain ⟨other, hother⟩ := Property.exists_has hhigh
  refine ⟨low, high, value, other, hkeys, hvalue, hother, ?_⟩
  rw [hbounds, Property.has_iff.mp hvalue, Property.has_iff.mp hother]

theorem bounds_of_boundKeywords? {low high : Keyword} (htype : p.type = .ok type)
    (hkeys : boundKeywords? type = some (low, high)) :
    p.bounds = ⟨p.option? low, p.option? high⟩ :=
  (bounds_of_type htype).trans (of_boundKeywords?_eq_some hkeys p).2

/-- **A clause rendered from values that are there is the clause of the rule.** -/
theorem clause_eq_of_rendered {rule : Rule} {c : Clause} (h : Rendered p rule c) :
    rule.clause p = c := by
  cases h with
  | plain h =>
    cases rule <;> cases h <;> rfl
  | least htype hkeys hlow =>
    rw [clause, bounds_of_boundKeywords? htype hkeys, Property.has_iff.mp hlow]
    rfl
  | most htype hkeys hhigh =>
    rw [clause, bounds_of_boundKeywords? htype hkeys, Property.has_iff.mp hhigh]
    rfl
  | range htype hkeys hlow hhigh =>
    rw [clause, bounds_of_boundKeywords? htype hkeys, Property.has_iff.mp hlow,
      Property.has_iff.mp hhigh]
    rfl
  | exact htype hkeys hlow =>
    rw [clause, bounds_of_boundKeywords? htype hkeys, Property.has_iff.mp hlow]
    rfl
  | multiple h | unmatched h => rw [clause, parameter_of_option? (Property.has_iff.mp h)]
  | layout h hlayout =>
    rw [clause, Property.has_text_iff.mp h, Option.bind_some, dateLayout?_eq_some_iff.mpr hlayout]
    rfl
  | matched h hleft hreading =>
    rw [← Pattern.stripped_eq_iff.mpr hleft] at hreading
    rw [clause, parameter_of_option? (Property.has_iff.mp h)]
    exact Pattern.clause_eq_iff.mpr hreading
  | listed h | unlisted h =>
    rw [clause, Property.enumParameters_of_option? (Property.has_iff.mp h)]

/-- **A rule that applies finds what its clause is written from.** -/
theorem rendered_of_holds {rule : Rule} (htype : p.type = .ok type) (h : rule.holds p type) :
    ∃ c, Rendered p rule c := by
  cases rule with
  | array | boolean | numeric | distinct | date | email | url | ipAddress | image =>
    exact ⟨_, .plain rfl⟩
  | min =>
    simp only [holds, Bool.and_eq_true] at h
    obtain ⟨⟨hsized, hlow⟩, -⟩ := h
    obtain ⟨low, high, hkeys, hbounds⟩ := exists_boundKeywords hsized p
    rw [hbounds] at hlow
    obtain ⟨value, hvalue⟩ := Property.exists_has hlow
    exact ⟨_, .least htype hkeys hvalue⟩
  | max =>
    simp only [holds, Bool.and_eq_true] at h
    obtain ⟨⟨hsized, hhigh⟩, -⟩ := h
    obtain ⟨low, high, hkeys, hbounds⟩ := exists_boundKeywords hsized p
    rw [hbounds] at hhigh
    obtain ⟨value, hvalue⟩ := Property.exists_has hhigh
    exact ⟨_, .most htype hkeys hvalue⟩
  | between =>
    simp only [holds, Bool.and_eq_true] at h
    obtain ⟨⟨⟨hsized, hlow⟩, hhigh⟩, -⟩ := h
    obtain ⟨low, high, value, other, hkeys, hvalue, hother, -⟩ := exists_bounds hsized hlow hhigh
    exact ⟨_, .range htype hkeys hvalue hother⟩
  | size =>
    simp only [holds, Bool.and_eq_true] at h
    obtain ⟨⟨⟨hsized, hlow⟩, hhigh⟩, hsame⟩ := h
    obtain ⟨low, high, value, other, hkeys, hvalue, hother, hbounds⟩ :=
      exists_bounds hsized hlow hhigh
    have hequal : value.equal other := by simpa [Bounds.distinct, hbounds] using hsame
    exact ⟨_, .exact htype hkeys hvalue hother hequal⟩
  | multipleOf =>
    simp only [holds, Bool.and_eq_true] at h
    obtain ⟨value, hvalue⟩ := Property.exists_has h.2
    exact ⟨_, .multiple hvalue⟩
  | dateFormat =>
    simp only [holds, Bool.and_eq_true] at h
    obtain ⟨format, hformat, hsome⟩ := (Option.any_eq_true _ _).mp h.2
    obtain ⟨layout, hlayout⟩ := Option.isSome_iff_exists.mp hsome
    exact ⟨_, .layout (Property.has_text_iff.mpr hformat) (dateLayout?_eq_some_iff.mp hlayout)⟩
  | regex =>
    simp only [holds, Bool.and_eq_true] at h
    obtain ⟨value, hvalue⟩ := Property.exists_has h.1.2
    exact ⟨_, .matched hvalue (Pattern.stripped_eq_iff.mp rfl) (Pattern.clause_eq_iff.mp rfl)⟩
  | notRegex =>
    simp only [holds, Bool.and_eq_true] at h
    obtain ⟨value, hvalue⟩ := Property.exists_has h.1.2
    exact ⟨_, .unmatched hvalue⟩
  | oneOf =>
    simp only [holds, Bool.and_eq_true] at h
    obtain ⟨value, hvalue⟩ := Property.exists_has h.1
    exact ⟨_, .listed hvalue⟩
  | noneOf =>
    simp only [holds, Bool.and_eq_true] at h
    obtain ⟨value, hvalue⟩ := Property.exists_has h.1
    exact ⟨_, .unlisted hvalue⟩

end

/-! ## 3. Every rule that applies -/

/-- **A rule that applies is written from values that are there.**  It has a clause, and this is the
one clause that is rendered from values of the property: from bounds under the keywords of its type,
from the options for multiples, patterns and listed values, and from the layout of its format.  All
of these are there and none of them is null. -/
theorem evaluate_rendered (rule : Rule) (p : Property) (h : rule.applies p = .ok true) :
    ∃ c, rule.evaluate p = .ok (some c) ∧ ∀ other, Rendered p rule other ↔ other = c := by
  obtain ⟨type, htype, hholds⟩ := applies_eq_ok_true_iff.mp h
  obtain ⟨c, hc⟩ := rendered_of_holds htype hholds
  obtain rfl : rule.clause p = c := clause_eq_of_rendered hc
  refine ⟨rule.clause p, ?_, fun other => ⟨fun hother => (clause_eq_of_rendered hother).symm, ?_⟩⟩
  · rw [evaluate_of_type htype, if_pos hholds]
  · rintro rfl
    exact hc

/-! ### A label

It has listed values of several kinds, bounds of which the second is a zero, and a pattern for
beginnings. -/

def labelProperty : Property :=
  .topLevel "label" (.object [("type", .string "string"), ("minLength", .integer 2),
    ("maxLength", .float (.zero true)), ("maximum", .integer 9), ("format", .string "full-time"),
    ("pattern", .string "^ab|c.*$"), ("enum", .array [.string "x", .bool false, .integer 1])])

theorem evaluate_rendered_labelProperty :
    between.evaluate labelProperty = .ok (some ⟨"between", ["2", "0"]⟩) ∧
      dateFormat.evaluate labelProperty = .ok (some ⟨"date_format", ["h:i:s"]⟩) ∧
      regex.evaluate labelProperty = .ok (some ⟨"starts_with", ["ab", "c"]⟩) ∧
      oneOf.evaluate labelProperty = .ok (some ⟨"in", ["x", "", "1"]⟩) := by
  have hread : ∀ (rule : Rule) (c : Clause), rule.applies labelProperty = .ok true →
      Rendered labelProperty rule c → rule.evaluate labelProperty = .ok (some c) := by
    intro rule c happlies hrendered
    obtain ⟨c', hc', hone⟩ := evaluate_rendered rule labelProperty happlies
    rw [hc', (hone c).mp hrendered]
  have htype : labelProperty.type = .ok "string" := by decide +kernel
  have hkeys : boundKeywords? "string" = some (.minLength, .maxLength) := by decide +kernel
  refine ⟨hread _ _ (by decide +kernel) ?_, hread _ _ (by decide +kernel) ?_,
    hread _ _ (by decide +kernel) ?_, hread _ _ (by decide +kernel) ?_⟩
  · have hlow : labelProperty.Has .minLength (.integer 2) := ⟨rfl, nofun⟩
    have hhigh : labelProperty.Has .maxLength (.float (.zero true)) := ⟨rfl, nofun⟩
    have htwo : (Json.integer 2).parameter = "2" := by decide +kernel
    have hzero : (Json.float (.zero true)).parameter = "0" := by decide +kernel
    rw [← htwo, ← hzero]
    exact .range htype hkeys hlow hhigh
  · have hformat : labelProperty.Has .format (.string "full-time") := ⟨rfl, nofun⟩
    exact .layout hformat (by decide)
  · have hpattern : labelProperty.Has .pattern (.string "^ab|c.*$") := ⟨rfl, nofun⟩
    have hleft : Pattern.Stripped "^ab|c.*$" "ab|c".toList :=
      ⟨["ab|c".toList, []], by decide +kernel, by decide +kernel, by decide +kernel,
        by decide +kernel⟩
    have hnamed : "^ab|c.*$" ∉ Pattern.named.map Prod.snd := by decide +kernel
    refine .matched hpattern hleft (.beginnings
      (fun name hmem => hnamed (List.mem_map_of_mem (f := Prod.snd) hmem))
      ⟨'a', _, rfl, by decide⟩ ⟨by decide +kernel, by decide +kernel, ?_⟩)
    exact ⟨"ab", ["c"], rfl, 'a', _, rfl, by decide⟩
  · have henum : labelProperty.Has .enum (.array [.string "x", .bool false, .integer 1]) :=
      ⟨rfl, nofun⟩
    exact .listed henum

end Rule

end FieldRules

/-
# Reading a clause back from its text

Who has the text of a clause can tell the clause: the name is what stands before the first colon,
and what stands after it, split at the commas, are the parameters (`Clause.ofText`).  That gives
back every clause without a colon in its name and a comma in its parameters
(`Clause.ofText_text`).  So texts tell no parameters from one empty parameter, and that from two.

Patterns and bounds may hold commas.  A clause with such a parameter has no other, and then all that
stands after the first colon is the parameter (`RuleTable.texts_decode`).
-/
import FieldRules.Proofs.RuleTable.Omission

namespace FieldRules

namespace Clause

/-! ## 1. Decoding -/

/-- What stands after the first colon of a text; `none` when there is no colon. -/
def afterColon? (text : String) : Option (List Char) := (text.toList.dropWhile (· ≠ ':')).tail?

/-- The clause that a text is read as. -/
def ofText (text : String) : Clause :=
  ⟨nameOfText text,
    match afterColon? text with
    | none => []
    | some params => (params.splitOn ',').map String.ofList⟩

/-- The parameters of a text are written with commas between them. -/
theorem toList_params (param : String) : ∀ rest : List String,
    param.toList ++ (furtherParams rest).toList
      = [','].intercalate ((param :: rest).map String.toList)
  | [] => by simp [furtherParams]
  | next :: rest => by
    have ih := toList_params next rest
    rw [List.map_cons, List.map_cons, List.intercalate_cons_cons, ← List.map_cons, ← ih]
    simp [furtherParams]

theorem afterColon?_of_no_params {name : String} (h : ':' ∉ name.toList) :
    afterColon? (text ⟨name, []⟩) = none := by
  have htext : text ⟨name, []⟩ = name := rfl
  rw [afterColon?, htext, List.dropWhile_eq_nil_iff.mpr (all_ne_colon h)]
  rfl

/-- After the first colon stand the parameters and nothing else. -/
theorem afterColon?_of_params {name : String} (h : ':' ∉ name.toList) (param : String)
    (rest : List String) :
    afterColon? (text ⟨name, param :: rest⟩)
      = some ([','].intercalate ((param :: rest).map String.toList)) := by
  rw [afterColon?, toList_text_cons, List.dropWhile_append_of_pos (all_ne_colon h),
    List.dropWhile_cons_of_neg (by simp), List.tail?_cons, toList_params]

/-- **A clause is read back from its text**, if its name holds no colon and its parameters no
comma. -/
theorem ofText_text {c : Clause} (h : c.Legible)
    (hparams : ∀ param ∈ c.params, ',' ∉ param.toList) : ofText c.text = c := by
  rw [ofText, nameOfText_text h]
  obtain ⟨name, params⟩ := c
  cases params with
  | nil => rw [afterColon?_of_no_params h]
  | cons param rest =>
    have hsplit : ([','].intercalate ((param :: rest).map String.toList)).splitOn ','
        = (param :: rest).map String.toList := by
      refine List.splitOn_intercalate ',' (fun piece hpiece => ?_) (by simp)
      obtain ⟨other, hother, rfl⟩ := List.mem_map.mp hpiece
      exact hparams other hother
    rw [afterColon?_of_params h]
    simp only [hsplit, List.map_map, Function.comp_def, String.ofList_toList, List.map_id']

end Clause

/-! ## 2. The texts of a table -/

namespace RuleTable

open Clause

/-- **Texts tell clauses apart.**  A clause without a colon in its name and a comma in its
parameters is read back from its text, so no parameters, one empty parameter and two empty
parameters have different texts.  No name in a compiled table has a colon, and a parameter that is
the only one stands after the first colon as it is, whatever it holds. -/
theorem texts_decode (idField : String) :
    (∀ c : Clause, ':' ∉ c.name.toList → (∀ param ∈ c.params, ',' ∉ param.toList) →
      ofText c.text = c) ∧
    (∀ first second third : String, ':' ∉ first.toList → ':' ∉ second.toList →
      ':' ∉ third.toList →
      [text ⟨first, []⟩, text ⟨second, [""]⟩, text ⟨third, ["", ""]⟩].Nodup) ∧
    (∀ (properties : OrderedMap Json) (table : RuleTable),
      compile idField properties = .ok table →
      ∀ name clauses, table.get? name = some clauses → ∀ c ∈ clauses,
        ':' ∉ c.name.toList ∧
          ∀ param, c.params = [param] → afterColon? c.text = some param.toList) := by
  refine ⟨fun c => ofText_text, fun first second third hfirst hsecond hthird => ?_,
    fun properties table h name clauses hget c hc => ?_⟩
  · have hempty : ∀ param ∈ ["", ""], ',' ∉ String.toList param := by simp
    have hread : ofText (text ⟨first, []⟩) = ⟨first, []⟩ := ofText_text hfirst (by simp)
    have hread' : ofText (text ⟨second, [""]⟩) = ⟨second, [""]⟩ := ofText_text hsecond (by simp)
    have hread'' : ofText (text ⟨third, ["", ""]⟩) = ⟨third, ["", ""]⟩ :=
      ofText_text hthird hempty
    refine List.Nodup.of_map ofText ?_
    simp [hread, hread', hread'']
  · have hlegible : c.Legible :=
      legible_compile h name clauses ((OrderedMap.get?_eq_some_iff table name clauses).mp hget) c hc
    refine ⟨hlegible, fun param hparam => ?_⟩
    obtain ⟨cname, params⟩ := c
    cases hparam
    rw [afterColon?_of_params hlegible]
    simp

/-! ### Texts with colons and commas -/

/-- A schema with a pattern that holds colons and a comma. -/
def markSchema : OrderedMap Json :=
  .ofList [("mark", .object [("type", .string "string"), ("pattern", .string "[a:b],[c:d]")])]

def markTable : RuleTable := .ofList [("mark", [⟨"regex", ["[a:b],[c:d]"]⟩])]

theorem texts_decode_markTable :
    ofText (text ⟨"in", ["", "a:b"]⟩) = ⟨"in", ["", "a:b"]⟩ ∧
      [text ⟨"in", []⟩, text ⟨"in", [""]⟩, text ⟨"in", ["", ""]⟩].Nodup ∧
      compile "id" markSchema = .ok markTable ∧
      afterColon? (text ⟨"regex", ["[a:b],[c:d]"]⟩) = some "[a:b],[c:d]".toList := by
  have hcompile : compile "id" markSchema = .ok markTable := by decide +kernel
  obtain ⟨hread, hempty, hcompiled⟩ := texts_decode "id"
  refine ⟨hread ⟨"in", ["", "a:b"]⟩ (by decide) (by simp),
    hempty "in" "in" "in" (by decide) (by decide) (by decide), hcompile, ?_⟩
  have hget : markTable.get? "mark" = some [⟨"regex", ["[a:b],[c:d]"]⟩] := by decide +kernel
  exact (hcompiled _ _ hcompile _ _ hget _ List.mem_cons_self).2 _ rfl

end RuleTable

end FieldRules

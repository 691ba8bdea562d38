/-
# What a message tells

A message says of which property the type is missing and, in brackets, at which path.  The path does
not tell the property by itself, because a name can hold anything: the first part of `a` and the
property `a.allOf[0]` have paths of one text.  But the message has the name twice, with a space
between, and behind it at most the place of a part, which holds no space.

Say that two messages with different names had one text.  The shorter name begins the longer one,
and what the longer one has more begins with the space.  The longer name also stands at the end of
its message, up to the place of a part, so what it has more would have to lie within the place of a
part in the other message; but there is no space in it (`eq_nil_of_said_twice`).

Hence a message tells the whole failure (`RuleTable.message_injective`), for every failure that
compiling a table can give; these are all of one form (`RuleTable.eq_ofPart_of_compile`).
-/
import FieldRules.Proofs.Json.Numbers
import FieldRules.Proofs.RuleTable.Untyped

namespace FieldRules

/-! ## 1. A word said twice -/

section

variable {α : Type} {c : α} {mark m n u s t : List α}

/-- A word that begins with another and goes on with `u` does not go on at all, if both, said twice
around the mark, come to the same. -/
theorem eq_nil_of_said_twice (ht : c ∉ t)
    (h : u ++ c :: mark ++ (n ++ u ++ s) = c :: mark ++ (n ++ t)) : u = [] := by
  cases u with
  | nil => rfl
  | cons x v =>
    -- what the word goes on with begins as the mark does
    have hx : x = c := List.head_eq_of_cons_eq h
    subst hx
    have hlength := congrArg List.length h
    simp only [List.length_append, List.length_cons] at hlength
    -- and the second time it is too far to the end to reach back into the other word
    have hlong : x :: v ++ s <:+ x :: v ++ x :: mark ++ (n ++ x :: v ++ s) :=
      ⟨x :: v ++ x :: mark ++ n, by simp only [List.append_assoc]⟩
    have hshort : t <:+ x :: v ++ x :: mark ++ (n ++ x :: v ++ s) :=
      ⟨x :: mark ++ n, by rw [h, List.append_assoc]⟩
    have hsuffix : x :: v ++ s <:+ t := by
      refine List.suffix_of_suffix_length_le hlong hshort ?_
      simp only [List.length_append, List.length_cons]
      omega
    exact absurd (hsuffix.subset List.mem_cons_self) ht

/-- **A word said twice around a mark can be told**, and so can what follows, if the first letter of
the mark is not in it. -/
theorem eq_of_said_twice (hs : c ∉ s) (ht : c ∉ t)
    (h : m ++ c :: mark ++ (m ++ s) = n ++ c :: mark ++ (n ++ t)) : m = n ∧ s = t := by
  have hword : m = n := by
    rw [List.append_assoc, List.append_assoc, List.append_eq_append_iff] at h
    rcases h with ⟨u, rfl, h⟩ | ⟨u, rfl, h⟩
    · have hnil : u = [] := eq_nil_of_said_twice hs (by simpa using h.symm)
      rw [hnil, List.append_nil]
    · have hnil : u = [] := eq_nil_of_said_twice ht (by simpa using h.symm)
      rw [hnil, List.append_nil]
  subst hword
  exact ⟨rfl, List.append_cancel_left (List.append_cancel_left h)⟩

end

/-! ## 2. Where a definition stands -/

namespace FieldPath

/-- The path of the definition of a property, or of one of its parts. -/
def ofPart (name : String) : Option Nat → FieldPath
  | none => property name
  | some n => (property name).member n

/-- What the text of the path has for a part. -/
def partText : Option Nat → String
  | none => ""
  | some n => ".allOf[" ++ toString n ++ "]"

theorem toList_text_ofPart (name : String) (part : Option Nat) :
    (ofPart name part).text.toList
      = "properties.".toList ++ name.toList ++ (partText part).toList := by
  cases part with
  | none => simp [ofPart, partText, text, following]
  | some n => simp [ofPart, partText, text, following]

/-- There is no space in the place of a part. -/
theorem space_not_mem_partText (part : Option Nat) : ' ' ∉ (partText part).toList := by
  cases part with
  | none => simp [partText]
  | some n =>
    have hdigits : ' ' ∉ Nat.toDigits 10 n := by
      intro h
      exact absurd (Json.isDigit_of_mem_toDigits h) (by decide)
    simpa [partText] using hdigits

/-- The place of a part tells which part it is. -/
theorem partText_injective : ∀ {part other : Option Nat},
    (partText part).toList = (partText other).toList → part = other
  | none, none, _ => rfl
  | none, some n, h => by simp [partText] at h
  | some n, none, h => by simp [partText] at h
  | some n, some k, h => by
    have hdigits : Nat.toDigits 10 n = Nat.toDigits 10 k := by simpa [partText] using h
    rw [← Json.number_toDigits n, hdigits, Json.number_toDigits]

end FieldPath

/-! ## 3. Messages -/

/-- A message has the name twice, with a space between, and no space behind. -/
theorem UntypedProperty.toList_message_ofPart (name : String) (part : Option Nat) :
    (UntypedProperty.mk name (.ofPart name part)).message.toList
      = "type has not been set for ".toList ++ (name.toList ++ ' ' :: "(properties.".toList
          ++ (name.toList ++ ((FieldPath.partText part).toList ++ ")".toList))) := by
  have hmark : ' ' :: "(properties.".toList = " (".toList ++ "properties.".toList := by
    decide +kernel
  change ("type has not been set for " ++ name ++ " (" ++ (FieldPath.ofPart name part).text
    ++ ")").toList = _
  simp only [String.toList_append, FieldPath.toList_text_ofPart, hmark, List.append_assoc]

/-- A failure of a property is at its definition or at one of its parts. -/
theorem UntypedAt.eq_ofPart {name : String} {d : Json} {e : UntypedProperty}
    (h : UntypedAt name d e) : ∃ part, e = ⟨name, .ofPart name part⟩ := by
  cases h with
  | itself => exact ⟨none, rfl⟩
  | @part before => exact ⟨some before.length, rfl⟩

namespace RuleTable

variable {idField otherId : String} {properties others : OrderedMap Json} {e f : UntypedProperty}

/-- **Every failure of a table is of one form.** -/
theorem eq_ofPart_of_compile (h : compile idField properties = .error e) :
    ∃ name part, e = ⟨name, .ofPart name part⟩ := by
  rw [compile, OrderedMap.traverse_filter_eq_error_iff] at h
  obtain ⟨-, name, d, -, -, -, -, hfail⟩ := h
  exact ⟨name, (compileProperty_eq_error_iff.mp hfail).eq_ofPart⟩

/-- **A message tells the whole failure.**  Failures of tables, be they of one schema or of two, are
the same if their messages are: they name one property and one path. -/
theorem message_injective (he : compile idField properties = .error e)
    (hf : compile otherId others = .error f) (h : e.message = f.message) : e = f := by
  obtain ⟨name, part, rfl⟩ := eq_ofPart_of_compile he
  obtain ⟨other, place, rfl⟩ := eq_ofPart_of_compile hf
  have htext := congrArg String.toList h
  rw [UntypedProperty.toList_message_ofPart, UntypedProperty.toList_message_ofPart] at htext
  have hspace : ∀ part, ' ' ∉ (FieldPath.partText part).toList ++ ")".toList := by
    intro part hmem
    rcases List.mem_append.mp hmem with hmem | hmem
    · exact FieldPath.space_not_mem_partText part hmem
    · exact absurd hmem (by decide)
  obtain ⟨hname, hplace⟩ :=
    eq_of_said_twice (hspace part) (hspace place) (List.append_cancel_left htext)
  have hpart := FieldPath.partText_injective (List.append_cancel_right hplace)
  rw [String.toList_injective hname, hpart]

/-! ### Names like paths

The first two schemas fail at the first part of `a`, in the second below a `not`.  The third has a
property whose name is `a` and the place of that part, so that the paths have one text; its message
is another. -/

def partSchema : OrderedMap Json :=
  .ofList [("id", .null), ("a", .object [("allOf", .array [.object [("minimum", .integer 3)]])])]

def deniedPartSchema : OrderedMap Json :=
  .ofList [("a", .object [("not", .object [("allOf", .array [.null])])]), ("id", .null)]

def bracketSchema : OrderedMap Json := .ofList [("a.allOf[0]", .object [("type", .null)])]

theorem message_injective_bracketSchema :
    (∃ e f, compile "id" partSchema = .error e ∧ compile "key" deniedPartSchema = .error f ∧
      e.message = f.message ∧ e = f) ∧
    ∃ e f, compile "id" partSchema = .error e ∧ compile "id" bracketSchema = .error f ∧
      e.path.text = f.path.text ∧ e.message ≠ f.message := by
  have hpart : compile "id" partSchema = .error ⟨"a", .ofPart "a" (some 0)⟩ := by decide +kernel
  have hdenied : compile "key" deniedPartSchema = .error ⟨"a", .ofPart "a" (some 0)⟩ := by
    decide +kernel
  have hbracket : compile "id" bracketSchema
      = .error ⟨"a.allOf[0]", .ofPart "a.allOf[0]" none⟩ := by
    decide +kernel
  refine ⟨⟨_, _, hpart, hdenied, rfl, message_injective hpart hdenied rfl⟩,
    ⟨_, _, hpart, hbracket, by decide +kernel, fun hsame => ?_⟩⟩
  exact absurd (message_injective hpart hbracket hsame) (by decide)

end RuleTable

end FieldRules

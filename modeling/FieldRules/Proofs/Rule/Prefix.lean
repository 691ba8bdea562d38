/-
# Prefix patterns

A prefix pattern is an anchor, beginnings that are plain text with bars between them, and an open
end (`Pattern.PrefixPattern`).  For such a pattern `starts_with` says what the pattern says, and it
comes out with exactly these beginnings, if the first of them begins with a letter
(`evaluate_of_prefixPattern`); otherwise the pattern is kept.

The converse does not hold: `starts_with` is decided on what is left of a pattern, and there other
patterns look like prefix patterns.  The pattern `^word$` is for one word alone and has no open end,
and yet it is read as the beginning `word$` (`startsWith_of_whole_word`).
-/
import FieldRules.Proofs.Rule.Pattern

namespace FieldRules

namespace Pattern

/-! ## 1. Prefix patterns -/

/-- The characters that do not stand for themselves in a pattern. -/
def metacharacters : List Char :=
  ['\\', '^', '$', '.', '|', '?', '*', '+', '(', ')', '[', ']', '\x7b', '\x7d']

/-- A pattern for texts that begin with one of some plain texts. -/
structure PrefixPattern (pattern : String) (beginnings : List String) : Prop where
  ne_nil : beginnings ≠ []
  plain : ∀ beginning ∈ beginnings,
    beginning ≠ "" ∧ ∀ c ∈ beginning.toList, c ∉ metacharacters
  text_eq : pattern.toList = '^' :: (['|'].intercalate (beginnings.map String.toList) ++ openEnd)

theorem mem_intercalate {separator : List Char} {c : Char} : ∀ {pieces : List (List Char)},
    c ∈ separator.intercalate pieces → c ∈ separator ∨ ∃ piece ∈ pieces, c ∈ piece
  | [], h => by simp at h
  | [piece], h => by
    rw [List.intercalate_singleton] at h
    exact .inr ⟨piece, List.mem_cons_self, h⟩
  | piece :: next :: rest, h => by
    rw [List.intercalate_cons_cons, List.mem_append, List.mem_append] at h
    rcases h with (h | h) | h
    · exact .inr ⟨piece, List.mem_cons_self, h⟩
    · exact .inl h
    · rcases mem_intercalate h with h | ⟨other, hother, h⟩
      · exact .inl h
      · exact .inr ⟨other, List.mem_cons_of_mem _ hother, h⟩

namespace PrefixPattern

variable {pattern : String} {beginnings : List String}

/-- Of the special characters only the bar stands between the anchor and the open end. -/
theorem not_mem_joined (h : PrefixPattern pattern beginnings) {c : Char}
    (hmeta : c ∈ metacharacters) (hbar : c ≠ '|') :
    c ∉ ['|'].intercalate (beginnings.map String.toList) := by
  intro hc
  rcases mem_intercalate hc with hc | ⟨piece, hpiece, hc⟩
  · exact hbar (List.mem_singleton.mp hc)
  · obtain ⟨beginning, hmem, rfl⟩ := List.mem_map.mp hpiece
    exact (h.plain beginning hmem).2 c hc hmeta

/-- **What is left of a prefix pattern is its beginnings.** -/
theorem stripped_eq (h : PrefixPattern pattern beginnings) :
    stripped pattern = ['|'].intercalate (beginnings.map String.toList) := by
  have hanchor : '^' ∉ ['|'].intercalate (beginnings.map String.toList) :=
    h.not_mem_joined (by decide) (by decide)
  have hdot : '.' ∉ ['|'].intercalate (beginnings.map String.toList) :=
    h.not_mem_joined (by decide) (by decide)
  have hfree : ¬openEnd <:+: ['|'].intercalate (beginnings.map String.toList) := fun hin =>
    hdot (hin.subset (by decide))
  have hdrop : dropAnchors pattern.toList
      = ['|'].intercalate (beginnings.map String.toList) ++ (openEnd ++ []) := by
    rw [h.text_eq, dropAnchors, List.filter_cons_of_neg (by decide), List.filter_append,
      List.append_nil]
    refine congrArg₂ (· ++ ·) (List.filter_eq_self.mpr fun c hc => ?_) (by decide)
    exact decide_eq_true fun heq => hanchor (heq ▸ hc)
  rw [stripped, hdrop, dropOpenEnds_piece_append hfree]
  exact List.append_nil _

/-- The pieces between the bars are the beginnings. -/
theorem splitAt_eq (h : PrefixPattern pattern beginnings) :
    splitAt '|' (stripped pattern) = beginnings.map String.toList := by
  refine splitAt_eq_iff.mpr ⟨by simpa using h.ne_nil, fun piece hpiece hbar => ?_,
    h.stripped_eq.symm⟩
  obtain ⟨beginning, hmem, rfl⟩ := List.mem_map.mp hpiece
  exact (h.plain beginning hmem).2 '|' hbar (by decide)

/-- A pattern with a rule of its own has no open end, and so it is no prefix pattern. -/
theorem not_named (h : PrefixPattern pattern beginnings) (name : String) :
    (name, pattern) ∉ named := by
  intro hnamed
  have hend : ∀ entry ∈ named, ¬openEnd <:+ entry.2.toList := by decide +kernel
  refine hend _ hnamed ?_
  dsimp only
  rw [h.text_eq]
  exact (List.suffix_append _ _).trans (List.suffix_cons _ _)

/-- What is left begins with a letter if the first beginning does. -/
theorem beginsWithLetter_iff_first (h : PrefixPattern pattern beginnings) :
    BeginsWithLetter (stripped pattern) ↔
      ∃ first rest, beginnings = first :: rest ∧ BeginsWithLetter first.toList := by
  constructor
  · intro hletter
    obtain ⟨piece, pieces, hsplit, hpiece⟩ := exists_first_of_letter hletter
    obtain ⟨first, rest, rfl⟩ := List.exists_cons_of_ne_nil h.ne_nil
    rw [h.splitAt_eq, List.map_cons] at hsplit
    exact ⟨first, rest, rfl, (List.cons.inj hsplit).1 ▸ hpiece⟩
  · rintro ⟨first, rest, rfl, c, tail, hfirst, hc⟩
    obtain ⟨more, hmore⟩ :=
      prefix_intercalate ['|'] first.toList (rest.map String.toList)
    refine ⟨c, tail ++ more, ?_, hc⟩
    rw [h.stripped_eq, List.map_cons, ← hmore, hfirst, List.cons_append]

/-- **A prefix pattern is read as its beginnings**, if the first of them begins with a letter; if
not it is kept. -/
theorem reading (h : PrefixPattern pattern beginnings) :
    ((∃ first rest, beginnings = first :: rest ∧ BeginsWithLetter first.toList) →
      clause pattern = ⟨"starts_with", beginnings⟩) ∧
    ((¬∃ first rest, beginnings = first :: rest ∧ BeginsWithLetter first.toList) →
      clause pattern = ⟨"regex", [pattern]⟩) := by
  rw [← h.beginsWithLetter_iff_first, ← beginsWithLetter_iff, clause_of_not_named h.not_named]
  refine ⟨fun hletter => ?_, fun hletter => if_neg hletter⟩
  rw [if_pos hletter, h.splitAt_eq, List.map_map, Function.comp_def]
  simp

end PrefixPattern

end Pattern

/-! ## 2. Properties with a pattern -/

namespace Rule

open Pattern

/-- **Prefix patterns are read for what they are, and what is not read as beginnings is kept.**  Let
the pattern of a string property be a text and nothing be denied.  If it comes out as `starts_with`,
the parameters are what is left of it, split at the bars; and if it is a prefix pattern they are its
beginnings.  Every prefix pattern comes out so with its beginnings if the first of them begins with
a letter, and is kept as it is if not.  Any pattern that has no rule of its own and does not come
out as `starts_with` is kept as it is. -/
theorem evaluate_regex_of_text (p : Property) (pattern : String) (htype : p.type = .ok "string")
    (hnot : p.modifier ≠ some .not) (hpattern : p.option? .pattern = some (.string pattern)) :
    (∀ params, regex.evaluate p = .ok (some ⟨"starts_with", params⟩) →
      (∃ left, Stripped pattern left ∧ Beginnings left params) ∧
        ∀ beginnings, PrefixPattern pattern beginnings → beginnings = params) ∧
    (∀ beginnings, PrefixPattern pattern beginnings →
      ((∃ first rest, beginnings = first :: rest ∧ BeginsWithLetter first.toList) →
        regex.evaluate p = .ok (some ⟨"starts_with", beginnings⟩)) ∧
      ((¬∃ first rest, beginnings = first :: rest ∧ BeginsWithLetter first.toList) →
        regex.evaluate p = .ok (some ⟨"regex", [pattern]⟩))) ∧
    ((∀ name, (name, pattern) ∉ named) →
      (∀ params, regex.evaluate p ≠ .ok (some ⟨"starts_with", params⟩)) →
        regex.evaluate p = .ok (some ⟨"regex", [pattern]⟩)) := by
  have hdenies : p.denies = false := decide_eq_false hnot
  have hclause : regex.evaluate p = .ok (some (Pattern.clause pattern)) := by
    rw [evaluate_regex htype hpattern, hdenies]
    rfl
  rw [hclause]
  simp only [Except.ok.injEq, Option.some.injEq, ne_eq]
  refine ⟨fun params hparams => ⟨?_, fun beginnings hprefix => ?_⟩,
    fun beginnings hprefix => hprefix.reading, fun hnamed hnone => ?_⟩
  · exact ⟨_, stripped_eq_iff.mp rfl, (clause_eq_iff.mp hparams).beginnings_of_startsWith⟩
  · by_cases hletter : ∃ first rest, beginnings = first :: rest ∧ BeginsWithLetter first.toList
    · have hread := hprefix.reading.1 hletter
      rw [hparams] at hread
      exact (congrArg Clause.params hread).symm
    · have hread := hprefix.reading.2 hletter
      rw [hparams] at hread
      exact absurd (congrArg Clause.name hread) (by simp)
  · rw [clause_of_not_named hnamed] at hnone ⊢
    split
    · rename_i hletter
      exact absurd (if_pos hletter) (hnone _)
    · rfl

/-! ### Prefix patterns and one that only looks like one -/

/-- A text property with a pattern. -/
def patternProperty (pattern : String) : Property :=
  .topLevel "code" (.object [("type", .string "string"), ("pattern", .string pattern)])

theorem evaluate_regex_of_text_prefixes :
    regex.evaluate (patternProperty "^one|two.*$") = .ok (some ⟨"starts_with", ["one", "two"]⟩) ∧
      regex.evaluate (patternProperty "^1st|two.*$") = .ok (some ⟨"regex", ["^1st|two.*$"]⟩) ∧
      regex.evaluate (patternProperty "[a-z]") = .ok (some ⟨"regex", ["[a-z]"]⟩) := by
  have hone : PrefixPattern "^one|two.*$" ["one", "two"] :=
    ⟨by decide, by simp [metacharacters], by decide +kernel⟩
  have hfirst : PrefixPattern "^1st|two.*$" ["1st", "two"] :=
    ⟨by decide, by simp [metacharacters], by decide +kernel⟩
  obtain ⟨-, hread, -⟩ := evaluate_regex_of_text (patternProperty "^one|two.*$") _ rfl nofun rfl
  obtain ⟨-, hread', -⟩ := evaluate_regex_of_text (patternProperty "^1st|two.*$") _ rfl nofun rfl
  obtain ⟨-, -, hkept⟩ := evaluate_regex_of_text (patternProperty "[a-z]") _ rfl nofun rfl
  refine ⟨(hread _ hone).1 ⟨"one", ["two"], rfl, 'o', _, rfl, by decide⟩,
    (hread' _ hfirst).2 ?_, hkept ?_ ?_⟩
  · rintro ⟨first, rest, heq, c, tail, hc, hletter⟩
    obtain ⟨rfl, rfl⟩ := List.cons.inj heq
    obtain ⟨rfl, -⟩ := List.cons.inj hc
    revert hletter
    decide
  · have hnamed : "[a-z]" ∉ named.map Prod.snd := by decide +kernel
    exact fun name hmem => hnamed (List.mem_map_of_mem (f := Prod.snd) hmem)
  · intro params hevaluate
    have hname : (regex.evaluate (patternProperty "[a-z]")).map (Option.map Clause.name)
        ≠ .ok (some "starts_with") := by decide +kernel
    rw [hevaluate] at hname
    exact hname rfl

/-- **A pattern for one word alone is read as a beginning**, though it is no prefix pattern: it has
no open end, and the anchor at its end becomes part of the beginning. -/
theorem startsWith_of_whole_word :
    (patternProperty "^word$").type = .ok "string" ∧
      (patternProperty "^word$").modifier ≠ some .not ∧
      (patternProperty "^word$").option? .pattern = some (.string "^word$") ∧
      regex.evaluate (patternProperty "^word$") = .ok (some ⟨"starts_with", ["word$"]⟩) ∧
      '$' ∈ metacharacters ∧ ∀ beginnings, ¬PrefixPattern "^word$" beginnings := by
  refine ⟨by decide +kernel, by decide +kernel, by decide +kernel, by decide +kernel, by decide,
    fun beginnings h => ?_⟩
  have hend : ¬openEnd <:+ "^word$".toList := by decide +kernel
  rw [h.text_eq] at hend
  exact hend ((List.suffix_append _ _).trans (List.suffix_cons _ _))

end Rule

end FieldRules

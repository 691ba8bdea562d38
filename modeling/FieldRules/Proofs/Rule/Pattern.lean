/-
# What a pattern says about its clause

A pattern is taken apart by two removals, one after the other, and a split.  This file says what
each of them does without running it:

* `splitAt` gives the pieces between separators: they hold no separator and make up the text again
  (`intercalate_splitAt`, `separator_not_mem`), and they are the only such list (`splitAt_eq_iff`);
* `dropOpenEnds` joins what stands between the open ends: the pieces of a text that hold no open
  end, whatever open ends come about where they meet (`dropOpenEnds_eq_iff`).  Two open ends never
  share a character, so it makes no difference from which side they are sought;
* `Stripped` is both removals, and `Reading` is the clause that a pattern is given, case by case:
  by name, as a list of beginnings or as it is (`clause_eq_iff`).

`evaluate_pattern` puts this together for the property that has the pattern: whatever value the
pattern is, one of the two kinds of rules that look at it gives its reading or the pattern as it is,
and the other gives nothing.
-/
import FieldRules.Proofs.Rule.Evaluation

namespace FieldRules

namespace Pattern

/-! ## 1. Pieces between separators -/

section

variable {separator : Char} {cs : List Char}

theorem splitAt_eq_splitOn (separator : Char) :
    ∀ cs : List Char, splitAt separator cs = cs.splitOn separator
  | [] => rfl
  | c :: rest => by
    have ih := splitAt_eq_splitOn separator rest
    rw [splitAt, List.splitOn_cons_eq_if_modifyHead, ih]
    by_cases h : c = separator
    · rw [if_pos h, if_pos (beq_iff_eq.mpr h)]
    · rw [if_neg h, if_neg (by simpa using h)]
      cases hrest : rest.splitOn separator with
      | nil => exact absurd hrest (List.splitOn_ne_nil _ _)
      | cons piece pieces => rfl

theorem splitAt_ne_nil (separator : Char) (cs : List Char) : splitAt separator cs ≠ [] := by
  rw [splitAt_eq_splitOn]
  exact List.splitOn_ne_nil _ _

/-- The pieces make up the text. -/
theorem intercalate_splitAt (separator : Char) (cs : List Char) :
    [separator].intercalate (splitAt separator cs) = cs := by
  rw [splitAt_eq_splitOn]
  exact List.intercalate_splitOn separator

/-- No piece holds the separator. -/
theorem separator_not_mem : ∀ {cs piece : List Char}, piece ∈ splitAt separator cs →
    separator ∉ piece
  | [], piece, h => by
    rw [List.mem_singleton.mp h]
    exact List.not_mem_nil
  | c :: rest, piece, h => by
    unfold splitAt at h
    split at h
    · rcases List.mem_cons.mp h with rfl | h
      · exact List.not_mem_nil
      · exact separator_not_mem h
    · rename_i hc
      split at h
      · rename_i hnil
        exact absurd hnil (splitAt_ne_nil _ _)
      · rename_i first others hsplit
        rcases List.mem_cons.mp h with rfl | h
        · have hfirst : separator ∉ first := separator_not_mem (hsplit ▸ List.mem_cons_self)
          rw [List.mem_cons, not_or]
          exact ⟨fun heq => hc heq.symm, hfirst⟩
        · exact separator_not_mem (hsplit ▸ List.mem_cons_of_mem _ h)

/-- **The pieces are the one list that holds no separator and makes up the text.** -/
theorem splitAt_eq_iff {pieces : List (List Char)} :
    splitAt separator cs = pieces ↔
      pieces ≠ [] ∧ (∀ piece ∈ pieces, separator ∉ piece) ∧
        [separator].intercalate pieces = cs := by
  constructor
  · rintro rfl
    exact ⟨splitAt_ne_nil _ _, fun _ => separator_not_mem, intercalate_splitAt _ _⟩
  · rintro ⟨hne, hfree, rfl⟩
    rw [splitAt_eq_splitOn]
    exact List.splitOn_intercalate separator hfree hne

end

/-! ## 2. What stands between open ends -/

/-- The end that leaves a pattern open. -/
def openEnd : List Char := ['.', '*', '$']

/-- What is left of a text when its open ends are taken out: the pieces between them, none of which
holds an open end, one after the other. -/
def LeavesBetweenEnds (cs left : List Char) : Prop :=
  ∃ pieces : List (List Char), pieces ≠ [] ∧ (∀ piece ∈ pieces, ¬openEnd <:+: piece) ∧
    openEnd.intercalate pieces = cs ∧ pieces.flatten = left

/-- A character at which no open end begins stays. -/
theorem dropOpenEnds_cons {c : Char} {cs : List Char} (h : ¬openEnd <+: c :: cs) :
    dropOpenEnds (c :: cs) = c :: dropOpenEnds cs := by
  refine dropOpenEnds.eq_2 c cs fun rest hc hcs => h ?_
  rw [hc, hcs]
  exact ⟨rest, rfl⟩

/-- Where a piece and an open end meet, no other open end begins. -/
theorem not_openEnd_prefix {c : Char} {piece : List Char} (h : ¬openEnd <+: c :: piece)
    (rest : List Char) : ¬openEnd <+: c :: (piece ++ (openEnd ++ rest)) := by
  rintro ⟨tail, htail⟩
  match piece with
  | [] => simp [openEnd] at htail
  | [d] => simp [openEnd] at htail
  | d :: e :: others =>
    simp only [openEnd, List.cons_append, List.nil_append, List.cons.injEq] at htail
    obtain ⟨rfl, rfl, rfl, -⟩ := htail
    exact h ⟨others, rfl⟩

theorem dropOpenEnds_of_free : ∀ {piece : List Char}, ¬openEnd <:+: piece →
    dropOpenEnds piece = piece
  | [], _ => rfl
  | c :: piece, h => by
    have hpiece : ¬openEnd <:+: piece := fun hin => h (hin.trans (List.suffix_cons c piece).isInfix)
    rw [dropOpenEnds_cons fun hpre => h hpre.isInfix, dropOpenEnds_of_free hpiece]

/-- A piece before an open end stays as it is. -/
theorem dropOpenEnds_piece_append : ∀ {piece : List Char}, ¬openEnd <:+: piece →
    ∀ rest, dropOpenEnds (piece ++ (openEnd ++ rest)) = piece ++ dropOpenEnds rest
  | [], _, _ => rfl
  | c :: piece, h, rest => by
    have hpiece : ¬openEnd <:+: piece := fun hin => h (hin.trans (List.suffix_cons c piece).isInfix)
    have hnot : ¬openEnd <+: c :: (piece ++ (openEnd ++ rest)) :=
      not_openEnd_prefix (fun hpre => h hpre.isInfix) rest
    rw [List.cons_append, dropOpenEnds_cons hnot, dropOpenEnds_piece_append hpiece,
      List.cons_append]

/-- Pieces without open ends are what is left of the text that they make up. -/
theorem dropOpenEnds_intercalate : ∀ {pieces : List (List Char)},
    (∀ piece ∈ pieces, ¬openEnd <:+: piece) →
      dropOpenEnds (openEnd.intercalate pieces) = pieces.flatten
  | [], _ => rfl
  | [piece], h => by
    simpa using dropOpenEnds_of_free (h piece List.mem_cons_self)
  | piece :: next :: rest, h => by
    have ih : dropOpenEnds (openEnd.intercalate (next :: rest)) = (next :: rest).flatten :=
      dropOpenEnds_intercalate fun other hother => h other (List.mem_cons_of_mem _ hother)
    rw [List.intercalate_cons_cons, List.append_assoc,
      dropOpenEnds_piece_append (h piece List.mem_cons_self), ih]
    exact List.flatten_cons.symm

theorem prefix_intercalate (separator first : List Char) (rest : List (List Char)) :
    first <+: separator.intercalate (first :: rest) := by
  cases rest with
  | nil => rw [List.intercalate_singleton]
  | cons next others =>
    rw [List.intercalate_cons_cons, List.append_assoc]
    exact List.prefix_append _ _

theorem subset_intercalate {separator piece : List Char} : ∀ {pieces : List (List Char)},
    piece ∈ pieces → piece ⊆ separator.intercalate pieces
  | first :: rest, h => by
    rcases List.mem_cons.mp h with rfl | h
    · exact (prefix_intercalate _ _ _).subset
    · have hrest : rest ≠ [] := List.ne_nil_of_mem h
      rw [List.intercalate_cons_of_ne_nil hrest]
      exact List.subset_append_of_subset_right _ (subset_intercalate h)

/-- A text falls into pieces at its open ends. -/
theorem leavesBetweenEnds_dropOpenEnds (cs : List Char) :
    LeavesBetweenEnds cs (dropOpenEnds cs) := by
  fun_induction dropOpenEnds cs with
  | case1 rest ih =>
    obtain ⟨pieces, hne, hfree, hjoin, hflat⟩ := ih
    obtain ⟨piece, others, rfl⟩ := List.exists_cons_of_ne_nil hne
    refine ⟨[] :: piece :: others, List.cons_ne_nil _ _, ?_, ?_, hflat⟩
    · refine List.forall_mem_cons.mpr ⟨by simp [openEnd], hfree⟩
    · rw [List.intercalate_cons_cons, hjoin]
      rfl
  | case2 c rest hno ih =>
    obtain ⟨pieces, hne, hfree, rfl, hflat⟩ := ih
    obtain ⟨piece, others, rfl⟩ := List.exists_cons_of_ne_nil hne
    obtain ⟨hpiece, hothers⟩ := List.forall_mem_cons.mp hfree
    have hno' : ¬openEnd <+: c :: openEnd.intercalate (piece :: others) := by
      rintro ⟨tail, htail⟩
      obtain ⟨rfl, hrest⟩ := List.cons.inj htail
      exact hno tail rfl hrest.symm
    have hlonger : ¬openEnd <+: c :: piece := fun hpre =>
      hno' (hpre.trans ((List.prefix_cons_inj c).mpr (prefix_intercalate _ _ _)))
    refine ⟨(c :: piece) :: others, List.cons_ne_nil _ _, ?_, ?_, ?_⟩
    · refine List.forall_mem_cons.mpr ⟨fun hin => ?_, hothers⟩
      exact (List.infix_cons_iff.mp hin).elim hlonger hpiece
    · rw [List.intercalate_cons_cons_left]
    · rw [← hflat]
      rfl
  | case3 => exact ⟨[[]], by simp, by simp [openEnd], rfl, rfl⟩

/-- **What is left without the open ends** is what stands between them. -/
theorem dropOpenEnds_eq_iff {cs left : List Char} :
    dropOpenEnds cs = left ↔ LeavesBetweenEnds cs left := by
  constructor
  · rintro rfl
    exact leavesBetweenEnds_dropOpenEnds cs
  · rintro ⟨pieces, -, hfree, rfl, rfl⟩
    exact dropOpenEnds_intercalate hfree

/-! ## 3. The reading of a pattern -/

/-- What is left of a pattern: every anchor is taken out, and of what remains every open end. -/
def Stripped (pattern : String) (left : List Char) : Prop :=
  LeavesBetweenEnds (pattern.toList.filter (· ≠ '^')) left

theorem stripped_eq_iff {pattern : String} {left : List Char} :
    stripped pattern = left ↔ Stripped pattern left :=
  dropOpenEnds_eq_iff

theorem anchor_not_mem_stripped (pattern : String) : '^' ∉ stripped pattern := by
  obtain ⟨pieces, -, -, hjoin, hflat⟩ := stripped_eq_iff.mp (rfl : stripped pattern = _)
  rw [← hflat]
  intro h
  obtain ⟨piece, hpiece, hc⟩ := List.mem_flatten.mp h
  have hin : '^' ∈ pattern.toList.filter (· ≠ '^') := hjoin ▸ subset_intercalate hpiece hc
  simp at hin

/-- The patterns that have a rule of their own, each after the name of the rule. -/
def named : List (String × String) :=
  [("alpha", alpha), ("alpha_dash", alphaDash), ("alpha_num", alphaNum)]

/-- A text that begins with a letter from A to Z of either case. -/
def BeginsWithLetter (cs : List Char) : Prop :=
  ∃ c rest, cs = c :: rest ∧ ('A' ≤ c ∧ c ≤ 'Z' ∨ 'a' ≤ c ∧ c ≤ 'z')

theorem beginsWithLetter_iff {cs : List Char} :
    beginsWithLetter cs = true ↔ BeginsWithLetter cs := by
  cases cs with
  | nil => simp [beginsWithLetter, BeginsWithLetter]
  | cons c rest =>
    simp only [beginsWithLetter, BeginsWithLetter, Char.isAlpha, Char.isUpper, Char.isLower,
      Bool.or_eq_true, Bool.and_eq_true, decide_eq_true_eq, List.cons.injEq]
    constructor
    · exact fun h => ⟨c, rest, ⟨rfl, rfl⟩, h⟩
    · rintro ⟨c', rest', ⟨rfl, rfl⟩, h⟩
      exact h

/-- A text as a list of beginnings: with bars between them they make up the text, none of them holds
a bar or an anchor, and the first begins with a letter. -/
structure Beginnings (left : List Char) (beginnings : List String) : Prop where
  joined : ['|'].intercalate (beginnings.map String.toList) = left
  free : ∀ beginning ∈ beginnings, '|' ∉ beginning.toList ∧ '^' ∉ beginning.toList
  first : ∃ first rest, beginnings = first :: rest ∧ BeginsWithLetter first.toList

/-- The clause that a pattern is read as, when `left` is what is left of it.  A pattern with a rule
of its own has that rule; any other is read as a list of beginnings if what is left begins with a
letter, and is kept as it is if not. -/
inductive Reading (pattern : String) (left : List Char) : Clause → Prop
  | named {name : String} (h : (name, pattern) ∈ named) : Reading pattern left ⟨name, []⟩
  | beginnings {params : List String} (hnamed : ∀ name, (name, pattern) ∉ Pattern.named)
      (hletter : BeginsWithLetter left) (h : Beginnings left params) :
      Reading pattern left ⟨"starts_with", params⟩
  | whole (hnamed : ∀ name, (name, pattern) ∉ Pattern.named) (hletter : ¬BeginsWithLetter left) :
      Reading pattern left ⟨"regex", [pattern]⟩

theorem Reading.beginnings_of_startsWith {pattern : String} {left : List Char}
    {params : List String} (h : Reading pattern left ⟨"starts_with", params⟩) :
    Beginnings left params := by
  generalize hc : (⟨"starts_with", params⟩ : Clause) = c at h
  cases h with
  | named h =>
    obtain ⟨rfl, -⟩ := Clause.mk.inj hc
    simp [Pattern.named] at h
  | beginnings _ _ h =>
    obtain ⟨-, rfl⟩ := Clause.mk.inj hc
    exact h
  | whole => simp at hc

/-- The first piece of a text that begins with a letter begins with that letter. -/
theorem exists_first_of_letter {cs : List Char} (h : BeginsWithLetter cs) :
    ∃ first rest, splitAt '|' cs = first :: rest ∧ BeginsWithLetter first := by
  obtain ⟨c, tail, rfl, hc⟩ := h
  have hbar : c ≠ '|' := by
    rintro rfl
    revert hc
    decide
  rw [splitAt, if_neg hbar]
  cases splitAt '|' tail with
  | nil => exact ⟨[c], [], rfl, c, [], rfl, hc⟩
  | cons piece pieces => exact ⟨c :: piece, pieces, rfl, c, piece, rfl, hc⟩

/-- What is left of a pattern, split at its bars, is a list of beginnings if it begins with a
letter. -/
theorem beginnings_splitAt {pattern : String} (h : BeginsWithLetter (stripped pattern)) :
    Beginnings (stripped pattern) ((splitAt '|' (stripped pattern)).map String.ofList) := by
  refine ⟨?_, fun beginning hmem => ?_, ?_⟩
  · rw [List.map_map, Function.comp_def]
    simpa using intercalate_splitAt '|' (stripped pattern)
  · obtain ⟨piece, hpiece, rfl⟩ := List.mem_map.mp hmem
    rw [String.toList_ofList]
    refine ⟨separator_not_mem hpiece, fun hc => anchor_not_mem_stripped pattern ?_⟩
    rw [← intercalate_splitAt '|' (stripped pattern)]
    exact subset_intercalate hpiece hc
  · obtain ⟨first, rest, hsplit, hfirst⟩ := exists_first_of_letter h
    refine ⟨String.ofList first, rest.map String.ofList, by rw [hsplit, List.map_cons], ?_⟩
    rwa [String.toList_ofList]

/-- There is one way to read a text as a list of beginnings. -/
theorem Beginnings.eq_splitAt {left : List Char} {beginnings : List String}
    (h : Beginnings left beginnings) :
    beginnings = (splitAt '|' left).map String.ofList := by
  have hsplit : splitAt '|' left = beginnings.map String.toList := by
    refine splitAt_eq_iff.mpr ⟨?_, ?_, h.joined⟩
    · obtain ⟨first, rest, rfl, -⟩ := h.first
      exact List.cons_ne_nil _ _
    · intro piece hpiece
      obtain ⟨beginning, hmem, rfl⟩ := List.mem_map.mp hpiece
      exact (h.free beginning hmem).1
  rw [hsplit, List.map_map, Function.comp_def]
  simp

/-- A pattern has at most one rule of its own, and its clause is that of the rule. -/
theorem clause_of_named {name pattern : String} (h : (name, pattern) ∈ named) :
    clause pattern = ⟨name, []⟩ := by
  simp only [named, List.mem_cons, List.not_mem_nil, or_false, Prod.mk.injEq] at h
  rcases h with ⟨rfl, rfl⟩ | ⟨rfl, rfl⟩ | ⟨rfl, rfl⟩ <;> decide +kernel

theorem clause_of_not_named {pattern : String} (h : ∀ name, (name, pattern) ∉ named) :
    clause pattern
      = if beginsWithLetter (stripped pattern) then
          ⟨"starts_with", (splitAt '|' (stripped pattern)).map String.ofList⟩
        else ⟨"regex", [pattern]⟩ := by
  have halpha : pattern ≠ alpha := fun heq => h "alpha" (by simp [named, heq])
  have hdash : pattern ≠ alphaDash := fun heq => h "alpha_dash" (by simp [named, heq])
  have hnum : pattern ≠ alphaNum := fun heq => h "alpha_num" (by simp [named, heq])
  rw [clause, if_neg halpha, if_neg hdash, if_neg hnum]

/-- **The clause of a pattern is its reading**, and it has no other. -/
theorem clause_eq_iff {pattern : String} {c : Clause} :
    clause pattern = c ↔ Reading pattern (stripped pattern) c := by
  constructor
  · rintro rfl
    by_cases hnamed : ∃ name, (name, pattern) ∈ named
    · obtain ⟨name, hname⟩ := hnamed
      rw [clause_of_named hname]
      exact .named hname
    · rw [not_exists] at hnamed
      rw [clause_of_not_named hnamed]
      split
      · rename_i hletter
        have hbegins := beginsWithLetter_iff.mp hletter
        exact .beginnings hnamed hbegins (beginnings_splitAt hbegins)
      · rename_i hletter
        exact .whole hnamed fun hbegins => hletter (beginsWithLetter_iff.mpr hbegins)
  · rintro (hname | ⟨hnamed, hletter, hparams⟩ | ⟨hnamed, hletter⟩)
    · exact clause_of_named hname
    · rw [clause_of_not_named hnamed, if_pos (beginsWithLetter_iff.mpr hletter),
        ← hparams.eq_splitAt]
    · rw [clause_of_not_named hnamed, if_neg fun h => hletter (beginsWithLetter_iff.mp h)]

end Pattern

/-! ## 4. Properties with a pattern -/

namespace Rule

section

variable {p : Property} {value : Json}

theorem parameter_of_option? {key : Keyword} (h : p.option? key = some value) :
    p.parameter key = value.parameter := by
  rw [Property.parameter, h]
  rfl

/-- A pattern is asserted by one kind of rule and denied by the other. -/
theorem evaluate_regex (htype : p.type = .ok "string") (h : p.option? .pattern = some value) :
    regex.evaluate p
      = .ok (if p.denies then none else some (Pattern.clause value.parameter)) := by
  rw [evaluate_of_type htype, clause, parameter_of_option? h]
  cases hdenies : p.denies <;> simp [holds, TypeFamily.holds, Property.hasOption, h, hdenies]

theorem evaluate_notRegex (htype : p.type = .ok "string")
    (h : p.option? .pattern = some value) :
    notRegex.evaluate p
      = .ok (if p.denies then some ⟨"not_regex", [value.parameter]⟩ else none) := by
  rw [evaluate_of_type htype, clause, parameter_of_option? h]
  cases hdenies : p.denies <;> simp [holds, TypeFamily.holds, Property.hasOption, h, hdenies]

end

/-- **A pattern is asserted by its reading or denied as it is.**  Let a string property have a
pattern, of whatever value, and let `left` be what is left of its text; there is one such text.
Where nothing is denied, `regex` gives the reading of the pattern and `notRegex` gives nothing.
Under a `not` it is the other way round, and the pattern is written as it is, also where it would
have a rule of its own or be read as beginnings. -/
theorem evaluate_pattern (p : Property) (value : Json) (htype : p.type = .ok "string")
    (hvalue : p.option? .pattern = some value) :
    ∃ left, (∀ other, Pattern.Stripped value.parameter other ↔ other = left) ∧
      (p.modifier ≠ some .not →
        (∃ c, regex.evaluate p = .ok (some c)) ∧
        (∀ c, regex.evaluate p = .ok (some c) ↔ Pattern.Reading value.parameter left c) ∧
        notRegex.evaluate p = .ok none) ∧
      (p.modifier = some .not →
        regex.evaluate p = .ok none ∧
        notRegex.evaluate p = .ok (some ⟨"not_regex", [value.parameter]⟩)) := by
  refine ⟨Pattern.stripped value.parameter, fun other => ?_, fun hnot => ?_, fun hnot => ?_⟩
  · rw [← Pattern.stripped_eq_iff, eq_comm]
  · have hdenies : p.denies = false := decide_eq_false hnot
    simp only [evaluate_regex htype hvalue, evaluate_notRegex htype hvalue, hdenies]
    refine ⟨⟨_, rfl⟩, fun c => ?_, rfl⟩
    simpa using Pattern.clause_eq_iff
  · have hdenies : p.denies = true := decide_eq_true hnot
    simp only [evaluate_regex htype hvalue, evaluate_notRegex htype hvalue, hdenies, if_true,
      and_self]

/-! ### A tangled pattern

Without the anchor inside it an open end comes about, which is taken out; where an open end is taken
out another one comes about, which stays. -/

/-- A pattern with anchors and open ends where one does not expect them. -/
def tangledPattern : String := "o^ne|.^*$two.*.*$$"

def tangledProperty : Property :=
  .topLevel "code" (.object [("type", .string "string"), ("pattern", .string tangledPattern)])

/-- The same pattern under a `not`. -/
def deniedTangledProperty : Property :=
  .topLevel "code" (.object [("not", .object [("type", .string "string"),
    ("pattern", .string tangledPattern)])])

theorem evaluate_pattern_tangled :
    regex.evaluate tangledProperty = .ok (some ⟨"starts_with", ["one", "two.*$"]⟩) ∧
      notRegex.evaluate tangledProperty = .ok none ∧
      regex.evaluate deniedTangledProperty = .ok none ∧
      notRegex.evaluate deniedTangledProperty = .ok (some ⟨"not_regex", [tangledPattern]⟩) := by
  obtain ⟨left, hleft, hasserted, -⟩ := evaluate_pattern tangledProperty (.string tangledPattern)
    (by decide +kernel) (by decide +kernel)
  obtain ⟨-, -, -, hdenied⟩ := evaluate_pattern deniedTangledProperty (.string tangledPattern)
    (by decide +kernel) (by decide +kernel)
  obtain ⟨-, hreading, hnone⟩ := hasserted (by decide +kernel)
  obtain ⟨hnone', htext⟩ := hdenied (by decide +kernel)
  refine ⟨(hreading _).mpr ?_, hnone, hnone', htext⟩
  have hstripped : Pattern.Stripped tangledPattern "one|two.*$".toList :=
    ⟨["one|".toList, "two.*".toList, ['$']], by decide +kernel, by decide +kernel,
      by decide +kernel, by decide +kernel⟩
  rw [← (hleft _).mp hstripped]
  have hnamed : tangledPattern ∉ Pattern.named.map Prod.snd := by decide +kernel
  refine .beginnings (fun name hmem => hnamed (List.mem_map_of_mem (f := Prod.snd) hmem))
    ⟨'o', _, rfl, by decide⟩ ⟨?_, ?_, ?_⟩
  · decide +kernel
  · decide +kernel
  · exact ⟨"one", ["two.*$"], rfl, 'o', _, rfl, by decide⟩

end Rule

end FieldRules

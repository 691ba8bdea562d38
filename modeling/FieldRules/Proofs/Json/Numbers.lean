/-
# Reading a number back

A number that is not whole-looking is written in parts: digits before the point, digits after it,
and an exponent, with a point or an exponent at least.  `Numeral` is such a writing, with what the
grammar asks of it, and two facts tie it to the two sides:

* the reader takes a numeral for the decimal that its parts write (`read?_text`), and
* the text of every binary64 number is a numeral whose decimal reads back as that number
  (`Binary64.exists_numeral`): the positional form with zeros added on the right or on the left,
  the positional form with the point among the digits, and the scientific form are all numerals.

Together: the text of every number is read as that number, `Json.read?_text_float`.
-/
import FieldRules.Json.Reader
import FieldRules.Proofs.Binary64.Shortest

namespace FieldRules

namespace Json

/-! ## 1. Digits -/

theorem number_eq_ofDigitChars (digits : List Char) :
    number digits = Nat.ofDigitChars 10 digits 0 := by
  rw [number, Nat.ofDigitChars_eq_foldl]
  congr 1
  funext sofar c
  rw [Nat.mul_comm]

theorem number_toDigits (n : Nat) : number (Nat.toDigits 10 n) = n := by
  rw [number_eq_ofDigitChars, Nat.ofDigitChars_ten_toDigits]

/-- Zeros before the digits change nothing. -/
theorem number_zeros_append (n : Nat) (digits : List Char) :
    number (Decimal.zeros n ++ digits) = number digits := by
  simp only [number_eq_ofDigitChars, Decimal.zeros, Nat.ofDigitChars_append,
    Nat.ofDigitChars_replicate_zero, Nat.mul_zero]

/-- Each zero after the digits is a factor of ten. -/
theorem number_append_zeros (digits : List Char) (n : Nat) :
    number (digits ++ Decimal.zeros n) = 10 ^ n * number digits := by
  simp only [number_eq_ofDigitChars, Decimal.zeros, Nat.ofDigitChars_append,
    Nat.ofDigitChars_replicate_zero]

theorem isDigit_of_mem_toDigits {n : Nat} {c : Char} (h : c ∈ Nat.toDigits 10 n) :
    c.isDigit = true :=
  Nat.isDigit_of_mem_toDigits (by decide) (by decide) h

theorem isDigit_of_mem_zeros {n : Nat} {c : Char} (h : c ∈ Decimal.zeros n) :
    c.isDigit = true := by
  rw [List.eq_of_mem_replicate h]
  rfl

/-- The digits of a natural other than zero do not begin with a zero. -/
theorem head?_toDigits_ne_zero : ∀ {n : Nat}, n ≠ 0 → (Nat.toDigits 10 n).head? ≠ some '0'
  | n, hn => by
    rw [Nat.toDigits_eq_if (by decide)]
    split
    · rename_i hlt
      have hdigit : ∀ k < 10, k ≠ 0 → k.digitChar ≠ '0' := by decide
      simpa using hdigit n hlt hn
    · have hrest : n / 10 ≠ 0 := by omega
      rw [List.head?_append_of_ne_nil _ Nat.toDigits_ne_nil]
      exact head?_toDigits_ne_zero hrest

/-- The reader of digits stops where the digits do. -/
theorem readDigits?_append {digits rest : List Char} (hne : digits ≠ [])
    (hdigits : ∀ c ∈ digits, c.isDigit = true) (hrest : ∀ c ∈ rest.head?, c.isDigit = false) :
    readDigits? (digits ++ rest) = some (digits, rest) := by
  have htake : rest.takeWhile Char.isDigit = [] := by
    cases rest with
    | nil => rfl
    | cons c rest => rw [List.takeWhile_cons, hrest c rfl, if_neg Bool.false_ne_true]
  have hdrop : rest.dropWhile Char.isDigit = rest := by
    cases rest with
    | nil => rfl
    | cons c rest => rw [List.dropWhile_cons, hrest c rfl, if_neg Bool.false_ne_true]
  simp only [readDigits?, List.takeWhile_append_of_pos hdigits,
    List.dropWhile_append_of_pos hdigits, htake, hdrop, List.append_nil, List.isEmpty_iff, hne,
    if_false]

theorem readDigits?_toDigits (n : Nat) :
    readDigits? (Nat.toDigits 10 n) = some (Nat.toDigits 10 n, []) := by
  have h : readDigits? (Nat.toDigits 10 n ++ []) = some (Nat.toDigits 10 n, []) :=
    readDigits?_append Nat.toDigits_ne_nil (fun _ => isDigit_of_mem_toDigits) (by simp)
  rwa [List.append_nil] at h

/-! ## 2. Numerals -/

/-- The text of an exponent, a positive one with its sign. -/
def exponentChars : Option Int → List Char
  | none => []
  | some exponent =>
    'e' :: (if exponent < 0 then '-' :: Nat.toDigits 10 (-exponent).toNat
      else '+' :: Nat.toDigits 10 exponent.toNat)

/-- The parts of a number that is written with a point or an exponent. -/
structure Numeral where
  whole : List Char
  fraction : List Char
  exponent : Option Int
  isDigit_of_mem : ∀ c ∈ whole ++ fraction, c.isDigit = true
  whole_ne_nil : whole ≠ []
  head?_ne_zero : 1 < whole.length → whole.head? ≠ some '0'
  marked : fraction ≠ [] ∨ exponent ≠ none

namespace Numeral

/-- The parts in their order. -/
def chars (n : Numeral) : List Char :=
  n.whole ++ (Decimal.fraction n.fraction ++ exponentChars n.exponent)

/-- The text of a numeral with its sign. -/
def text (n : Numeral) (negative : Bool) : String :=
  String.ofList (if negative then '-' :: n.chars else n.chars)

/-- The decimal that the parts write. -/
def decimal (n : Numeral) : Decimal :=
  ⟨number (n.whole ++ n.fraction), n.exponent.getD 0 - n.fraction.length⟩

theorem isDigit_of_mem_whole (n : Numeral) : ∀ c ∈ n.whole, c.isDigit = true :=
  fun c hc => n.isDigit_of_mem c (List.mem_append_left _ hc)

theorem isDigit_of_mem_fraction (n : Numeral) : ∀ c ∈ n.fraction, c.isDigit = true :=
  fun c hc => n.isDigit_of_mem c (List.mem_append_right _ hc)

/-- A numeral is no whole number: it has a point or the letter of an exponent. -/
theorem mark_mem_text (n : Numeral) (negative : Bool) :
    '.' ∈ (n.text negative).toList ∨ 'e' ∈ (n.text negative).toList := by
  have hchars : '.' ∈ n.chars ∨ 'e' ∈ n.chars := by
    rcases n.marked with hfraction | hexponent
    · obtain ⟨c, rest, hcons⟩ := List.exists_cons_of_ne_nil hfraction
      simp [chars, hcons, Decimal.fraction]
    · obtain ⟨exponent, hsome⟩ := Option.ne_none_iff_exists'.mp hexponent
      simp [chars, hsome, exponentChars]
  cases negative with
  | false => simpa [text] using hchars
  | true => simpa [text] using hchars

end Numeral

/-! ## 3. The reader on numerals -/

theorem isDigit_head?_exponentChars (exponent : Option Int) :
    ∀ c ∈ (exponentChars exponent).head?, c.isDigit = false := by
  cases exponent with
  | none => simp [exponentChars]
  | some exponent =>
    intro c hc
    cases hc
    rfl

theorem readExponent?_exponentChars (exponent : Option Int) :
    readExponent? (exponentChars exponent) = some (exponent, []) := by
  cases exponent with
  | none => rfl
  | some exponent =>
    by_cases hneg : exponent < 0
    · have hcast : ((-exponent).toNat : Int) = -exponent := by omega
      simp [exponentChars, hneg, readExponent?, readDigits?_toDigits, number_toDigits, hcast]
    · have hcast : (exponent.toNat : Int) = exponent := by omega
      simp [exponentChars, hneg, readExponent?, readDigits?_toDigits, number_toDigits, hcast]

theorem readFraction?_fraction {fraction : List Char}
    (hdigits : ∀ c ∈ fraction, c.isDigit = true) (exponent : Option Int) :
    readFraction? (Decimal.fraction fraction ++ exponentChars exponent)
      = some (fraction, exponentChars exponent) := by
  cases fraction with
  | nil =>
    cases exponent with
    | none => rfl
    | some exponent => rfl
  | cons c rest =>
    exact readDigits?_append (List.cons_ne_nil c rest) hdigits
      (isDigit_head?_exponentChars exponent)

theorem isDigit_head?_fraction (fraction : List Char) (exponent : Option Int) :
    ∀ c ∈ (Decimal.fraction fraction ++ exponentChars exponent).head?, c.isDigit = false := by
  cases fraction with
  | nil => exact isDigit_head?_exponentChars exponent
  | cons c rest =>
    intro d hd
    cases hd
    rfl

/-- The reader takes the parts apart as they were put together. -/
theorem readUnsigned?_chars (negative : Bool) (n : Numeral) :
    readUnsigned? negative n.chars
      = (Binary64.ofDecimal? negative n.decimal.digits n.decimal.exponent).map
          fun x => (float x, []) := by
  have hwhole : readDigits? n.chars
      = some (n.whole, Decimal.fraction n.fraction ++ exponentChars n.exponent) :=
    readDigits?_append n.whole_ne_nil n.isDigit_of_mem_whole
      (isDigit_head?_fraction n.fraction n.exponent)
  have hlead : ¬(n.whole.length > 1 ∧ n.whole.head? = some '0') :=
    fun h => n.head?_ne_zero h.1 h.2
  have hmarked : ¬(n.fraction.isEmpty = true ∧ n.exponent.isNone = true) := by
    simpa [← not_or, imp_iff_not_or] using n.marked
  simp only [readUnsigned?, hwhole, readFraction?_fraction n.isDigit_of_mem_fraction,
    readExponent?_exponentChars, if_neg hlead, if_neg hmarked, Option.bind_eq_bind,
    Option.bind_some, Numeral.decimal]
  cases Binary64.ofDecimal? negative (number (n.whole ++ n.fraction))
    (n.exponent.getD 0 - n.fraction.length) <;> rfl

theorem ne_of_isDigit {c d : Char} (hc : c.isDigit = true) (hd : d.isDigit = false) : c ≠ d := by
  rintro rfl
  exact absurd hc (by simp [hd])

/-- What begins with a digit or a minus sign is read as a number. -/
theorem readValue?_of_numeric {c : Char} (hc : c.isDigit = true ∨ c = '-')
    (fuel depth : Nat) (rest : List Char) :
    readValue? (fuel + 1) depth (c :: rest) = readNumber? (c :: rest) := by
  have hne : ∀ d : Char, d.isDigit = false → d ≠ '-' → c ≠ d := by
    rintro d hd hminus rfl
    exact hc.elim (fun hdigit => ne_of_isDigit hdigit hd rfl) hminus
  have hblank : isBlank c = false := by
    simp [isBlank, hne ' ' rfl (by decide), hne '\t' rfl (by decide), hne '\n' rfl (by decide),
      hne '\r' rfl (by decide)]
  have hskip : skipBlanks (c :: rest) = c :: rest := by
    rw [skipBlanks, List.dropWhile_cons, hblank, if_neg Bool.false_ne_true]
  unfold readValue?
  rw [hskip]
  -- every other kind of value begins with a character of its own
  split
  · rename_i heq
    exact absurd (List.head_eq_of_cons_eq heq) (hne 'n' rfl (by decide))
  · rename_i heq
    exact absurd (List.head_eq_of_cons_eq heq) (hne 't' rfl (by decide))
  · rename_i heq
    exact absurd (List.head_eq_of_cons_eq heq) (hne 'f' rfl (by decide))
  · rename_i heq
    exact absurd (List.head_eq_of_cons_eq heq) (hne '"' rfl (by decide))
  · rename_i heq
    exact absurd (List.head_eq_of_cons_eq heq) (hne '[' rfl (by decide))
  · rename_i heq
    exact absurd (List.head_eq_of_cons_eq heq) (hne '\x7b' rfl (by decide))
  · rfl

/-- The head of a numeral is a digit. -/
theorem Numeral.exists_digit_cons (n : Numeral) :
    ∃ (c : Char) (rest : List Char), c.isDigit = true ∧ n.chars = c :: rest := by
  obtain ⟨c, rest, hcons⟩ := List.exists_cons_of_ne_nil n.whole_ne_nil
  refine ⟨c, rest ++ (Decimal.fraction n.fraction ++ exponentChars n.exponent), ?_, ?_⟩
  · exact n.isDigit_of_mem_whole c (by simp [hcons])
  · rw [chars, hcons, List.cons_append]

/-- **The reader takes a numeral for the decimal that its parts write**, whatever its sign. -/
theorem read?_text (n : Numeral) (negative : Bool) :
    read? (n.text negative)
      = (Binary64.ofDecimal? negative n.decimal.digits n.decimal.exponent).map float := by
  obtain ⟨c, rest, hdigit, hchars⟩ := n.exists_digit_cons
  have hread : ∀ fuel, readValue? (fuel + 1) maxDepth (n.text negative).toList
      = readUnsigned? negative n.chars := by
    intro fuel
    cases negative with
    | false =>
      have hplain : readNumber? (c :: rest) = readUnsigned? false (c :: rest) := by
        unfold readNumber?
        split
        · rename_i heq
          exact absurd (List.head_eq_of_cons_eq heq) (ne_of_isDigit hdigit rfl)
        · rfl
      rw [Numeral.text, if_neg Bool.false_ne_true, String.toList_ofList, hchars,
        readValue?_of_numeric (.inl hdigit), hplain]
    | true =>
      rw [Numeral.text, if_pos rfl, String.toList_ofList, readValue?_of_numeric (.inr rfl)]
      rfl
  unfold read?
  dsimp only
  rw [hread, readUnsigned?_chars]
  cases Binary64.ofDecimal? negative n.decimal.digits n.decimal.exponent <;> rfl

end Json

/-! ## 4. The text of a number is a numeral -/

namespace Decimal

open Json

section

variable {digits : Nat} (hne : digits ≠ 0)

include hne

/-- Zeros stand between the digits and the point. -/
theorem exists_numeral_padded (count : Nat) :
    ∃ n : Numeral, n.chars = Nat.toDigits 10 digits ++ zeros count ++ ['.', '0'] ∧
      n.decimal.value = digits * (10 : ℚ) ^ count := by
  have hnil : Nat.toDigits 10 digits ≠ [] := Nat.toDigits_ne_nil
  refine ⟨⟨Nat.toDigits 10 digits ++ zeros count, zeros 1, none, ?_, ?_, ?_, ?_⟩, ?_, ?_⟩
  · intro c hc
    simp only [List.mem_append] at hc
    rcases hc with (hc | hc) | hc
    · exact isDigit_of_mem_toDigits hc
    · exact isDigit_of_mem_zeros hc
    · exact isDigit_of_mem_zeros hc
  · exact List.append_ne_nil_of_left_ne_nil hnil _
  · intro _
    rw [List.head?_append_of_ne_nil _ hnil]
    exact head?_toDigits_ne_zero hne
  · exact .inl (by decide)
  · simp [Numeral.chars, fraction, zeros, exponentChars]
  · have hnumber : number (Nat.toDigits 10 digits ++ zeros count ++ zeros 1)
        = 10 ^ 1 * (10 ^ count * digits) := by
      rw [number_append_zeros, number_append_zeros, number_toDigits]
    simp only [value, Numeral.decimal, hnumber]
    simp [zeros]
    ring

/-- The point stands among the digits. -/
theorem exists_numeral_pointed {places : Nat} (hpos : 0 < places)
    (hlt : places < (Nat.toDigits 10 digits).length) :
    ∃ n : Numeral,
      n.chars = (Nat.toDigits 10 digits).take ((Nat.toDigits 10 digits).length - places)
        ++ '.' :: (Nat.toDigits 10 digits).drop ((Nat.toDigits 10 digits).length - places) ∧
      n.decimal.value = digits * (10 : ℚ) ^ (-(places : Int)) := by
  have hdrop : ((Nat.toDigits 10 digits).drop
      ((Nat.toDigits 10 digits).length - places)).length = places := by
    rw [List.length_drop]
    omega
  have hfraction : (Nat.toDigits 10 digits).drop
      ((Nat.toDigits 10 digits).length - places) ≠ [] := by
    intro hnil
    rw [hnil] at hdrop
    exact hpos.ne hdrop
  refine ⟨⟨(Nat.toDigits 10 digits).take ((Nat.toDigits 10 digits).length - places),
    (Nat.toDigits 10 digits).drop ((Nat.toDigits 10 digits).length - places), none,
    ?_, ?_, ?_, .inl hfraction⟩, ?_, ?_⟩
  · rw [List.take_append_drop]
    exact fun _ => isDigit_of_mem_toDigits
  · refine List.ne_nil_of_length_pos ?_
    rw [List.length_take]
    omega
  · intro _
    rw [List.head?_take, if_neg (by omega)]
    exact head?_toDigits_ne_zero hne
  · obtain ⟨c, rest, hcons⟩ := List.exists_cons_of_ne_nil hfraction
    simp [Numeral.chars, hcons, fraction, exponentChars]
  · simp [value, Numeral.decimal, number_toDigits, hdrop]

omit hne in
/-- Zeros stand between the point and the digits. -/
theorem exists_numeral_small {places : Nat} (hle : (Nat.toDigits 10 digits).length ≤ places) :
    ∃ n : Numeral,
      n.chars = '0' :: '.' ::
        (zeros (places - (Nat.toDigits 10 digits).length) ++ Nat.toDigits 10 digits) ∧
      n.decimal.value = digits * (10 : ℚ) ^ (-(places : Int)) := by
  have hfraction :
      zeros (places - (Nat.toDigits 10 digits).length) ++ Nat.toDigits 10 digits ≠ [] :=
    List.append_ne_nil_of_right_ne_nil _ Nat.toDigits_ne_nil
  refine ⟨⟨zeros 1, zeros (places - (Nat.toDigits 10 digits).length) ++ Nat.toDigits 10 digits,
    none, ?_, by decide, fun hlength => absurd hlength (by decide), .inl hfraction⟩, ?_, ?_⟩
  · intro c hc
    simp only [List.mem_append] at hc
    rcases hc with hc | hc | hc
    · exact isDigit_of_mem_zeros hc
    · exact isDigit_of_mem_zeros hc
    · exact isDigit_of_mem_toDigits hc
  · simp [Numeral.chars, fraction, exponentChars, zeros]
  · have hlength : (zeros (places - (Nat.toDigits 10 digits).length)
        ++ Nat.toDigits 10 digits).length = places := by
      rw [List.length_append, zeros, List.length_replicate]
      omega
    simp only [value, Numeral.decimal, number_zeros_append, number_toDigits, hlength]
    simp

/-- Each positional form writes its decimal. -/
theorem exists_numeral_positional (exponent : Int) :
    ∃ n : Numeral, n.chars = positional (Nat.toDigits 10 digits) exponent ∧
      n.decimal.value = digits * (10 : ℚ) ^ exponent := by
  unfold positional
  by_cases hexponent : 0 ≤ exponent
  · obtain ⟨n, hchars, hvalue⟩ := exists_numeral_padded hne exponent.toNat
    refine ⟨n, ?_, ?_⟩
    · rw [hchars, if_pos hexponent]
    · rw [hvalue, ← zpow_natCast, Int.toNat_of_nonneg hexponent]
  · have hplaces : exponent = -((-exponent).toNat : Int) := by omega
    rw [if_neg hexponent]
    by_cases hlt : (-exponent).toNat < (Nat.toDigits 10 digits).length
    · obtain ⟨n, hchars, hvalue⟩ := exists_numeral_pointed hne (by omega) hlt
      refine ⟨n, ?_, ?_⟩
      · rw [hchars, if_pos hlt]
      · rw [hvalue, ← hplaces]
    · obtain ⟨n, hchars, hvalue⟩ := exists_numeral_small (Nat.le_of_not_lt hlt)
      refine ⟨n, ?_, ?_⟩
      · rw [hchars, if_neg hlt]
      · rw [hvalue, ← hplaces]

/-- The scientific form writes the first digit at its place. -/
theorem exists_numeral_scientific (leading : Int) :
    ∃ n : Numeral, n.chars = scientific (Nat.toDigits 10 digits) leading ∧
      n.decimal.value
        = digits * (10 : ℚ) ^ (leading - ((Nat.toDigits 10 digits).length - 1 : Nat)) := by
  refine ⟨⟨(Nat.toDigits 10 digits).take 1, (Nat.toDigits 10 digits).drop 1, some leading,
    ?_, ?_, ?_, .inr (by simp)⟩, ?_, ?_⟩
  · rw [List.take_append_drop]
    exact fun _ => isDigit_of_mem_toDigits
  · refine List.ne_nil_of_length_pos ?_
    rw [List.length_take]
    have hpos : 0 < (Nat.toDigits 10 digits).length := Nat.length_toDigits_pos
    omega
  · intro _
    rw [List.head?_take, if_neg (by decide)]
    exact head?_toDigits_ne_zero hne
  · rw [Numeral.chars, scientific, List.append_assoc]
    rfl
  · simp only [value, Numeral.decimal, List.take_append_drop, number_toDigits, Option.getD_some,
      List.length_drop]

end

/-- **The text of a decimal is a numeral that writes it.** -/
theorem exists_numeral_text {d : Decimal} (hne : d.digits ≠ 0) :
    ∃ n : Numeral, n.chars = d.text ∧ n.decimal.value = d.value := by
  unfold text
  split
  · exact exists_numeral_positional hne d.exponent
  · obtain ⟨n, hchars, hvalue⟩ := exists_numeral_scientific hne d.leading
    refine ⟨n, hchars, ?_⟩
    have hpos : 0 < (Nat.toDigits 10 d.digits).length := Nat.length_toDigits_pos
    have hexponent : d.leading - ((Nat.toDigits 10 d.digits).length - 1 : Nat) = d.exponent := by
      simp only [leading, Binary64.digitCount]
      omega
    rw [hvalue, hexponent, value]

end Decimal

namespace Binary64

/-- **The text of a number is a numeral, and its decimal reads back as the number.** -/
theorem exists_numeral (x : Binary64) :
    ∃ n : Json.Numeral, x.text = n.text x.negative ∧ x.readsBack n.decimal = true := by
  cases hzero : x.isZero with
  | true =>
    refine ⟨⟨['0'], ['0'], none, by simp, by decide, by decide, .inl (by decide)⟩, ?_, ?_⟩
    · simp [text, hzero, Json.Numeral.text, Json.Numeral.chars, Decimal.fraction,
        Json.exponentChars]
    · rw [eq_zero_of_isZero hzero]
      cases x.negative <;> rfl
  | false =>
    have hshortest := x.readsBack_shortest
    obtain ⟨n, hchars, hvalue⟩ :=
      Decimal.exists_numeral_text (digits_ne_zero_of_readsBack hzero hshortest)
    refine ⟨n, ?_, ?_⟩
    · simp [text, hzero, Json.Numeral.text, hchars]
    · rwa [readsBack_iff, hvalue, ← readsBack_iff]

end Binary64

/-! ## 5. What the reader makes of the text of a number -/

/-- **The text of a number is read as that number.** -/
theorem Json.read?_text_float (x : Binary64) : Json.read? x.text = some (.float x) := by
  obtain ⟨n, htext, hback⟩ := x.exists_numeral
  rw [htext, read?_text, of_decide_eq_true hback, Option.map_some]

/-- The text of a number has a point or the letter of an exponent. -/
theorem Binary64.mark_mem_text (x : Binary64) : '.' ∈ x.text.toList ∨ 'e' ∈ x.text.toList := by
  obtain ⟨n, htext, -⟩ := x.exists_numeral
  rw [htext]
  exact n.mark_mem_text x.negative

/-- Numbers with one text are one number. -/
theorem Binary64.text_injective : Function.Injective Binary64.text := by
  intro x y h
  have hread : some (Json.float x) = some (Json.float y) := by
    rw [← Json.read?_text_float x, ← Json.read?_text_float y, h]
  cases hread
  rfl

end FieldRules

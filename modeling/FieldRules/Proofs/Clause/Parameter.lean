/-
# Numbers as parameters

A number comes in three forms, a signed and an unsigned integer and a binary64 number, and a
parameter is one text.  A float that stands for an integer below `10 ^ 15` is written as that
integer, with neither point nor exponent; every other float is written with one of the two.  So a
parameter tells whether it was written as an integer, and then which one
(`plainText_injective`), or as a float, and then which one, for it is read back as that float
(`Json.read?_text_float`).  Hence numbers that are written alike stand for one rational, and equal
numbers are written alike: `Json.parameter_of_rational`.

Writing a float as an integer goes through the signed 64-bit range, which holds what it is given
at its ends.  It never comes to that: `Binary64.toInt64_eq_truncate`.
-/
import FieldRules.Clause
import FieldRules.Proofs.Json.Numbers

namespace FieldRules

/-! ## 1. Floats that stand for integers -/

namespace Binary64

theorem abs_value (x : Binary64) : |x.value| = x.size := by
  unfold value
  split
  · rw [abs_neg, abs_of_nonneg x.size_nonneg]
  · rw [abs_of_nonneg x.size_nonneg]

/-- The integer toward zero of a number without a fraction is the number. -/
theorem truncate_eq_value {x : Binary64} (h : x.isWhole = true) : (x.truncate : ℚ) = x.value := by
  have hpos : (x.magnitude.2 : ℚ) ≠ 0 := by exact_mod_cast x.magnitude_pos.ne'
  have hmod : x.magnitude.1 % x.magnitude.2 = 0 := of_decide_eq_true h
  have hsize : (((x.magnitude.1 : ℤ) / x.magnitude.2 : ℤ) : ℚ) = x.size := by
    rw [← magnitude_eq_size, eq_div_iff hpos]
    exact_mod_cast Nat.div_mul_cancel (Nat.dvd_of_mod_eq_zero hmod)
  unfold truncate value
  split
  · rw [Int.cast_neg, hsize]
  · exact hsize

/-- The numbers without a fraction are those that stand for integers. -/
theorem isWhole_iff (x : Binary64) : x.isWhole = true ↔ ∃ n : ℤ, x.value = n := by
  refine ⟨fun h => ⟨x.truncate, (truncate_eq_value h).symm⟩, fun ⟨n, hn⟩ => ?_⟩
  have hpos : (x.magnitude.2 : ℚ) ≠ 0 := by exact_mod_cast x.magnitude_pos.ne'
  have hsize : x.size = n.natAbs := by
    rw [← abs_value, hn, Nat.cast_natAbs, Int.cast_abs]
  have hmul : x.magnitude.1 = n.natAbs * x.magnitude.2 := by
    rw [← magnitude_eq_size, div_eq_iff hpos] at hsize
    exact_mod_cast hsize
  rw [isWhole, hmul, Nat.mul_mod_left]
  rfl

theorem below_iff (x : Binary64) (bound : Nat) : x.below bound = true ↔ |x.value| < bound := by
  have hpos : (0 : ℚ) < x.magnitude.2 := by exact_mod_cast x.magnitude_pos
  rw [abs_value, ← magnitude_eq_size, div_lt_iff₀ hpos, below, decide_eq_true_iff]
  exact_mod_cast Iff.rfl

/-- For a number that stands for an integer, the bound is one of integers. -/
theorem below_iff_of_value {x : Binary64} {n : Int} (h : x.value = n) :
    x.below (Nat.pow 10 15) = true ↔ |n| < 10 ^ 15 := by
  rw [below_iff, h, Nat.pow_eq]
  exact_mod_cast Iff.rfl

/-- Inside the range the conversion is exact. -/
theorem toInt64_eq_truncate {x : Binary64} (hlow : -2 ^ 63 ≤ x.truncate)
    (hhigh : x.truncate < 2 ^ 63) : x.toInt64 = x.truncate := by
  have hpow : Int.pow 2 63 = 2 ^ 63 := rfl
  rw [toInt64, hpow, if_neg (by omega), if_neg (by omega)]

/-- What a float is converted from when it is written as an integer is well within the range. -/
theorem truncate_bounds {x : Binary64} (hwhole : x.isWhole = true)
    (hbelow : x.below (Nat.pow 10 15) = true) : -2 ^ 63 ≤ x.truncate ∧ x.truncate < 2 ^ 63 := by
  have habs := abs_lt.mp ((below_iff_of_value (truncate_eq_value hwhole).symm).mp hbelow)
  omega

/-- **A float is written as an integer when it stands for one below `10 ^ 15`**, and as that one. -/
theorem parameterInteger?_eq_some_iff (x : Binary64) (n : Int) :
    x.parameterInteger? = some n ↔ x.value = n ∧ |n| < 10 ^ 15 := by
  unfold parameterInteger?
  split
  · rename_i hboth
    obtain ⟨hwhole, hbelow⟩ := Bool.and_eq_true_iff.mp hboth
    obtain ⟨hlow, hhigh⟩ := truncate_bounds hwhole hbelow
    have hvalue := truncate_eq_value hwhole
    rw [Option.some_inj, toInt64_eq_truncate hlow hhigh, ← hvalue, Int.cast_inj]
    refine ⟨fun h => ⟨h, ?_⟩, And.left⟩
    rw [← h]
    exact (below_iff_of_value hvalue.symm).mp hbelow
  · rename_i hnot
    refine ⟨nofun, fun ⟨hn, hlt⟩ => absurd ?_ hnot⟩
    exact Bool.and_eq_true_iff.mpr ⟨x.isWhole_iff.mpr ⟨n, hn⟩, (below_iff_of_value hn).mpr hlt⟩

/-- Both zeros are written as the integer. -/
theorem parameterInteger?_of_isZero {x : Binary64} (h : x.isZero) :
    x.parameterInteger? = some 0 := by
  refine (x.parameterInteger?_eq_some_iff 0).mpr ⟨?_, by decide⟩
  rw [Int.cast_zero, ← abs_eq_zero, abs_value]
  exact x.isZero_iff.mp h

end Binary64

/-! ## 2. Plain texts -/

/-- The plain decimal text of an integer: its digits, after a minus sign when it is negative. -/
def plainText (n : Int) : List Char :=
  if n < 0 then '-' :: Nat.toDigits 10 n.natAbs else Nat.toDigits 10 n.natAbs

theorem toList_toString_int (n : Int) : (toString n).toList = plainText n := by
  change (Int.repr n).toList = plainText n
  rw [Int.repr_eq_if, plainText]
  by_cases hneg : n < 0
  · have habs : (-n).toNat = n.natAbs := by omega
    rw [if_neg (by omega), if_pos hneg, String.toList_append, Nat.toList_repr, habs]
    rfl
  · have habs : n.toNat = n.natAbs := by omega
    rw [if_pos (by omega), if_neg hneg, Nat.toList_repr, habs]

theorem of_mem_plainText {n : Int} {c : Char} (h : c ∈ plainText n) :
    c = '-' ∨ c.isDigit = true := by
  unfold plainText at h
  split at h
  · rcases List.mem_cons.mp h with hminus | hdigit
    · exact .inl hminus
    · exact .inr (Json.isDigit_of_mem_toDigits hdigit)
  · exact .inr (Json.isDigit_of_mem_toDigits h)

theorem not_mem_plainText {c : Char} (hminus : c ≠ '-') (hdigit : c.isDigit = false) (n : Int) :
    c ∉ plainText n := by
  intro h
  rcases of_mem_plainText h with heq | heq
  · exact hminus heq
  · exact absurd heq (by simp [hdigit])

/-- A plain text has no minus sign for an integer that is not negative. -/
theorem head?_plainText_iff (n : Int) : (plainText n).head? = some '-' ↔ n < 0 := by
  unfold plainText
  split
  · rename_i hneg
    simpa using hneg
  · rename_i hneg
    refine ⟨fun h => ?_, fun h => absurd h hneg⟩
    have hdigit : '-'.isDigit = true :=
      Json.isDigit_of_mem_toDigits (List.mem_of_mem_head? h)
    exact absurd hdigit (by decide)

/-- **A plain text tells its integer.** -/
theorem plainText_injective : Function.Injective plainText := by
  intro m n h
  have hsign : m < 0 ↔ n < 0 := by rw [← head?_plainText_iff, h, head?_plainText_iff]
  have hdigits : Nat.toDigits 10 m.natAbs = Nat.toDigits 10 n.natAbs := by
    unfold plainText at h
    by_cases hneg : m < 0
    · rw [if_pos hneg, if_pos (hsign.mp hneg)] at h
      exact List.tail_eq_of_cons_eq h
    · rwa [if_neg hneg, if_neg (mt hsign.mpr hneg)] at h
  have habs : m.natAbs = n.natAbs := by
    rw [← Json.number_toDigits m.natAbs, hdigits, Json.number_toDigits]
  omega

namespace Json

/-! ## 3. Equal scalars are written alike -/

/-- Whether a value holds no other values. -/
def isScalar : Json → Bool
  | array _ => false
  | object _ => false
  | _ => true

/-- **Equal scalars have one parameter.** -/
theorem parameter_eq_of_equal {a b : Json} (hscalar : a.isScalar) (h : a.equal b) :
    a.parameter = b.parameter := by
  cases a with
  | null =>
    cases b with
    | null => rfl
    | _ => simp [equal] at h
  | bool value =>
    cases b with
    | bool other =>
      have hsame : value = other := by simpa [equal] using h
      rw [hsame]
    | _ => simp [equal] at h
  | integer value =>
    cases b with
    | integer other =>
      have hsame : value = other := by simpa using h
      rw [hsame]
    | _ => simp [equal] at h
  | string value =>
    cases b with
    | string other =>
      have hsame : value = other := by simpa [equal] using h
      rw [hsame]
    | _ => simp [equal] at h
  | float value =>
    cases b with
    | float other =>
      have hsame : value.isZero ∧ other.isZero ∨ value = other := by
        simpa [Binary64.equal] using h
      rcases hsame with ⟨hzero, hzero'⟩ | rfl
      · simp only [parameter, Binary64.parameterInteger?_of_isZero hzero,
          Binary64.parameterInteger?_of_isZero hzero']
      · rfl
    | _ => simp [equal] at h
  | array items => cases hscalar
  | object fields => cases hscalar

/-! ## 4. Numbers that are written alike -/

/-- The rational that a number stands for; no other value stands for one. -/
def rational? : Json → Option ℚ
  | integer value => some value
  | float value => some value.value
  | _ => none

theorem isScalar_of_rational? {a : Json} {p : ℚ} (h : a.rational? = some p) : a.isScalar := by
  cases a <;> first | rfl | cases h

theorem toList_parameter_integer (n : Int) : (integer n).parameter.toList = plainText n :=
  toList_toString_int n

theorem toList_parameter_float {x : Binary64} {n : Int} (hvalue : x.value = n)
    (hbelow : |n| < 10 ^ 15) : (float x).parameter.toList = plainText n := by
  rw [parameter, (x.parameterInteger?_eq_some_iff n).mpr ⟨hvalue, hbelow⟩]
  exact toList_toString_int n

/-- Every other float is written as it is in a document. -/
theorem parameter_float_of_not {x : Binary64} (h : ¬∃ n : Int, x.value = n ∧ |n| < 10 ^ 15) :
    (float x).parameter = x.text := by
  cases hinteger : x.parameterInteger? with
  | none => rw [parameter, hinteger]
  | some n => exact absurd ⟨n, (x.parameterInteger?_eq_some_iff n).mp hinteger⟩ h

/-- A number is written as the plain text of an integer, which is then the number, or as a float
is in a document. -/
theorem parameter_cases {a : Json} {p : ℚ} (h : a.rational? = some p) :
    (∃ n : Int, p = n ∧ a.parameter.toList = plainText n) ∨
    (∃ x : Binary64, a = float x ∧ p = x.value ∧ a.parameter = x.text) := by
  cases a with
  | integer n =>
    cases h
    exact .inl ⟨n, rfl, toList_parameter_integer n⟩
  | float x =>
    cases h
    by_cases hinteger : ∃ n : Int, x.value = n ∧ |n| < 10 ^ 15
    · obtain ⟨n, hvalue, hbelow⟩ := hinteger
      exact .inl ⟨n, hvalue, toList_parameter_float hvalue hbelow⟩
    · exact .inr ⟨x, rfl, rfl, parameter_float_of_not hinteger⟩
  | null | bool | string | array | object => cases h

/-- A float with a point or an exponent is not written as any integer is. -/
theorem text_toList_ne_plainText (x : Binary64) (n : Int) : x.text.toList ≠ plainText n := by
  intro h
  have hmark := x.mark_mem_text
  rw [h] at hmark
  rcases hmark with hpoint | hletter
  · exact not_mem_plainText (by decide) (by decide) n hpoint
  · exact not_mem_plainText (by decide) (by decide) n hletter

/-- **Numbers that are written alike stand for one rational.** -/
theorem rational_eq_of_parameter_eq {a b : Json} {p q : ℚ} (ha : a.rational? = some p)
    (hb : b.rational? = some q) (h : a.parameter = b.parameter) : p = q := by
  rcases parameter_cases ha with ⟨m, rfl, hm⟩ | ⟨x, rfl, rfl, hx⟩ <;>
    rcases parameter_cases hb with ⟨n, rfl, hn⟩ | ⟨y, rfl, rfl, hy⟩
  · rw [plainText_injective (hm.symm.trans ((congrArg String.toList h).trans hn))]
  · exact absurd (by rw [← hy, ← h, hm]) (text_toList_ne_plainText y m)
  · exact absurd (by rw [← hx, h, hn]) (text_toList_ne_plainText x n)
  · rw [Binary64.text_injective (hx.symm.trans (h.trans hy))]

/-- **As parameters, numbers keep their value.**  Equal numbers are written alike, and numbers that
are written alike stand for one rational.  Every integer, and every float that stands for one below
`10 ^ 15`, is written as the plain text of that integer, and what such a float is converted from
fits the range of the conversion; every other float is written with a point or an exponent, and is
read back. -/
theorem parameter_of_rational :
    (∀ (a b : Json) (p q : ℚ), a.rational? = some p → b.rational? = some q →
      (a.equal b = true → a.parameter = b.parameter) ∧ (a.parameter = b.parameter → p = q)) ∧
    (∀ n : Int, (integer n).parameter.toList = plainText n) ∧
    (∀ (x : Binary64) (n : Int), x.value = n → |n| < 10 ^ 15 →
      (float x).parameter.toList = plainText n ∧
      x.truncate = n ∧ -2 ^ 63 ≤ x.truncate ∧ x.truncate < 2 ^ 63 ∧ x.toInt64 = x.truncate) ∧
    (∀ x : Binary64, (¬∃ n : Int, x.value = n ∧ |n| < 10 ^ 15) →
      ('.' ∈ (float x).parameter.toList ∨ 'e' ∈ (float x).parameter.toList) ∧
      read? (float x).parameter = some (float x)) ∧
    (∀ n : Int, ∀ c ∈ plainText n, c = '-' ∨ c.isDigit = true) ∧
    (∀ negative : Bool, (float (.zero negative)).parameter = "0") := by
  refine ⟨fun a b p q ha hb => ⟨?_, rational_eq_of_parameter_eq ha hb⟩, toList_parameter_integer,
    fun x n hvalue hbelow => ?_, fun x hnot => ?_, fun n c => of_mem_plainText, fun negative => ?_⟩
  · exact parameter_eq_of_equal (isScalar_of_rational? ha)
  · have hwhole : x.isWhole = true := x.isWhole_iff.mpr ⟨n, hvalue⟩
    have htruncate : x.truncate = n := by
      exact_mod_cast (Binary64.truncate_eq_value hwhole).trans hvalue
    obtain ⟨hlow, hhigh⟩ :=
      Binary64.truncate_bounds hwhole ((Binary64.below_iff_of_value hvalue).mpr hbelow)
    exact ⟨toList_parameter_float hvalue hbelow, htruncate, hlow, hhigh,
      Binary64.toInt64_eq_truncate hlow hhigh⟩
  · rw [parameter_float_of_not hnot]
    exact ⟨x.mark_mem_text, read?_text_float x⟩
  · rw [parameter, Binary64.parameterInteger?_of_isZero rfl]
    rfl

/-- A half. -/
def half : Binary64 := ⟨false, 2 ^ 52, -53, by decide⟩

/-- Minus two. -/
def minusTwo : Binary64 := ⟨true, 2 ^ 52, -51, by decide⟩

theorem value_half : half.value = 1 / 2 := by
  norm_num [half, Binary64.value, Binary64.size]

theorem value_minusTwo : minusTwo.value = (-2 : Int) := by
  norm_num [minusTwo, Binary64.value, Binary64.size]

theorem parameter_of_rational_small :
    (float (.zero true)).parameter = (float (.zero false)).parameter ∧
      (integer (-2)).parameter = (float minusTwo).parameter ∧
      ((-2 : Int) : ℚ) = minusTwo.value ∧
      (float minusTwo).parameter.toList = plainText (-2) ∧ minusTwo.truncate = -2 ∧
      ('.' ∈ (float half).parameter.toList ∨ 'e' ∈ (float half).parameter.toList) ∧
      read? (float half).parameter = some (float half) := by
  obtain ⟨halike, -, hfloat, hother, -⟩ := parameter_of_rational
  have hsame : (integer (-2)).parameter = (float minusTwo).parameter := by decide +kernel
  have hhalf : ¬∃ n : Int, half.value = n ∧ |n| < 10 ^ 15 := by
    rintro ⟨n, hn, -⟩
    rw [value_half, div_eq_iff two_ne_zero] at hn
    have hdouble : (1 : Int) = n * 2 := by exact_mod_cast hn
    omega
  obtain ⟨hplain, htruncate, -⟩ := hfloat minusTwo (-2) value_minusTwo (by decide)
  refine ⟨(halike (float (.zero true)) (float (.zero false)) _ _ rfl rfl).1 (by decide +kernel),
    hsame, (halike (integer (-2)) (float minusTwo) _ _ rfl rfl).2 hsame, hplain, htruncate,
    hother half hhalf⟩

end Json

end FieldRules

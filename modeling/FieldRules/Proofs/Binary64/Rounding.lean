/-
# Rounding to binary64, said of rationals

A binary64 number stands for a rational, `Binary64.value`, and its absolute value is
`Binary64.size`.  Rounding is done on quotients of naturals; `ofRational?` says on rationals what it
comes to: the exponent is read off the binary logarithm, the significand is the nearest natural, a
half going to the even one.  It follows that

* rounding a quotient depends on the rational alone, not on how it is written (`ofRatio?_eq`);
* so does reading a decimal, and the two answers that are given from the number of digits are those
  that rounding would give (`ofDecimal?_eq`);
* rounding the size of a number gives the number (`ofRational?_size`).
-/
import Mathlib
import FieldRules.Binary64

namespace FieldRules

namespace Binary64

/-! ## 1. The rational that a number stands for -/

/-- The absolute value. -/
def size (x : Binary64) : ℚ := x.significand * (2 : ℚ) ^ x.exponent

/-- The rational that a number stands for. -/
def value (x : Binary64) : ℚ := if x.negative then -x.size else x.size

theorem magnitude_pos (x : Binary64) : 0 < x.magnitude.2 := by
  unfold magnitude
  split
  · exact Nat.one_pos
  · exact Nat.pow_pos Nat.two_pos

/-- A power with an exponent that is not negative, as a natural. -/
theorem cast_pow_toNat (base : Nat) {exponent : Int} (h : 0 ≤ exponent) :
    ((base.pow exponent.toNat : Nat) : ℚ) = (base : ℚ) ^ exponent := by
  rw [Nat.pow_eq, Nat.cast_pow, ← zpow_natCast, Int.toNat_of_nonneg h]

/-- The quotient that a number is compared by is its size. -/
theorem magnitude_eq_size (x : Binary64) : (x.magnitude.1 : ℚ) / x.magnitude.2 = x.size := by
  unfold magnitude size
  split
  · rename_i h
    rw [Nat.cast_mul, cast_pow_toNat 2 h]
    simp
  · rename_i h
    have hneg : 0 ≤ -x.exponent := by omega
    simp only [cast_pow_toNat 2 hneg, Nat.cast_ofNat, zpow_neg, div_inv_eq_mul]

theorem size_nonneg (x : Binary64) : 0 ≤ x.size := by
  unfold size
  positivity

theorem isZero_iff (x : Binary64) : x.isZero = true ↔ x.size = 0 := by
  have hpow : (2 : ℚ) ^ x.exponent ≠ 0 := zpow_ne_zero _ two_ne_zero
  simp [isZero, size, hpow]

/-- The two zeros are the only numbers of size zero. -/
theorem eq_zero_of_isZero {x : Binary64} (h : x.isZero = true) : x = zero x.negative := by
  obtain ⟨negative, significand, exponent, hcanonical⟩ := x
  have hzero : significand = 0 := by simpa [isZero] using h
  subst hzero
  have hexponent : exponent = -1074 := by
    rcases hcanonical.2.2.2 with hle | heq
    · exact absurd hle (by decide)
    · exact heq
  subst hexponent
  rfl

/-! ## 2. The nearest natural -/

/-- The natural nearest to a rational, a half going to the even one. -/
def nearest (q : ℚ) : ℕ :=
  if q - ⌊q⌋₊ < 1 / 2 then ⌊q⌋₊
  else if 1 / 2 < q - ⌊q⌋₊ then ⌊q⌋₊ + 1
  else if ⌊q⌋₊ % 2 = 0 then ⌊q⌋₊
  else ⌊q⌋₊ + 1

theorem nearest_natCast (n : ℕ) : nearest n = n := by
  rw [nearest, Nat.floor_natCast, sub_self, if_pos (by norm_num)]

/-- Rounding a quotient is rounding the rational. -/
theorem roundHalfEven_eq (num : Nat) {den : Nat} (hden : 0 < den) :
    roundHalfEven num den = nearest ((num : ℚ) / den) := by
  have hpos : (0 : ℚ) < den := by exact_mod_cast hden
  have hfloor : ⌊(num : ℚ) / den⌋₊ = num / den := Nat.floor_div_eq_div num den
  have hrest : (num : ℚ) / den - ((num / den : ℕ) : ℚ) = ((num % den : ℕ) : ℚ) / den := by
    have hsplit : (num : ℚ) = den * ((num / den : ℕ) : ℚ) + ((num % den : ℕ) : ℚ) := by
      exact_mod_cast (Nat.div_add_mod num den).symm
    field_simp
    linarith
  have hbelow : ((num % den : ℕ) : ℚ) / den < 1 / 2 ↔ 2 * (num % den) < den := by
    rw [div_lt_div_iff₀ hpos two_pos, one_mul, mul_comm, ← Nat.cast_ofNat, ← Nat.cast_mul,
      Nat.cast_lt]
  have habove : 1 / 2 < ((num % den : ℕ) : ℚ) / den ↔ den < 2 * (num % den) := by
    rw [div_lt_div_iff₀ two_pos hpos, one_mul, mul_comm _ (2 : ℚ), ← Nat.cast_ofNat,
      ← Nat.cast_mul, Nat.cast_lt]
  simp only [roundHalfEven, nearest, hfloor, hrest, hbelow, habove]

/-! ## 3. Rounding a rational -/

/-- The exponent at which a rational has a significand of 53 bits, or the least one. -/
def exponentOf (q : ℚ) : ℤ := max (Int.log 2 q - 52) (-1074)

/-- The binary64 number nearest to a rational, ties to the even significand; `none` beyond the
largest finite number. -/
def ofRational? (negative : Bool) (q : ℚ) : Option Binary64 :=
  if q = 0 then some (zero negative)
  else if nearest (q / (2 : ℚ) ^ exponentOf q) < Nat.pow 2 53 then
    ofParts? negative (nearest (q / (2 : ℚ) ^ exponentOf q)) (exponentOf q)
  else ofParts? negative (Nat.pow 2 52) (exponentOf q + 1)

theorem unscale_pos {base num den : Nat} {exponent : Int} (hbase : 0 < base) (hden : 0 < den) :
    0 < (unscale base num den exponent).2 := by
  unfold unscale
  split
  · exact Nat.mul_pos hden (Nat.pow_pos hbase)
  · exact hden

/-- What unscaling divides by. -/
theorem unscale_eq {base : Nat} (num den : Nat) (exponent : Int) (hbase : 0 < base) :
    ((unscale base num den exponent).1 : ℚ) / (unscale base num den exponent).2
      = num / den / (base : ℚ) ^ exponent := by
  have hbase' : (base : ℚ) ≠ 0 := by exact_mod_cast hbase.ne'
  unfold unscale
  split
  · rename_i h
    simp only [Nat.cast_mul, cast_pow_toNat base h]
    rw [div_div]
  · rename_i h
    have hneg : 0 ≤ -exponent := by omega
    simp only [Nat.cast_mul, cast_pow_toNat base hneg]
    rw [zpow_neg, ← div_eq_mul_inv, div_right_comm]

/-- The binary logarithm of a quotient is known from those of its parts, but for one. -/
theorem log_div {num den : Nat} (hnum : 0 < num) (hden : 0 < den) :
    (Nat.log2 num : Int) - Nat.log2 den - 1 ≤ Int.log 2 ((num : ℚ) / den) ∧
      Int.log 2 ((num : ℚ) / den) ≤ (Nat.log2 num : Int) - Nat.log2 den := by
  have hdenQ : (0 : ℚ) < den := by exact_mod_cast hden
  have hpos : (0 : ℚ) < (num : ℚ) / den := div_pos (by exact_mod_cast hnum) hdenQ
  have hbounds : ∀ {n : Nat}, 0 < n →
      (2 : ℚ) ^ (Nat.log2 n : Int) ≤ n ∧ (n : ℚ) < (2 : ℚ) ^ ((Nat.log2 n : Int) + 1) := by
    intro n hn
    constructor
    · rw [zpow_natCast]
      exact_mod_cast Nat.log2_self_le hn.ne'
    · rw [← Nat.cast_succ, zpow_natCast]
      exact_mod_cast Nat.lt_log2_self (n := n)
  obtain ⟨hnumLow, hnumHigh⟩ := hbounds hnum
  obtain ⟨hdenLow, hdenHigh⟩ := hbounds hden
  constructor
  · refine (Int.zpow_le_iff_le_log one_lt_two hpos).mp ?_
    rw [Nat.cast_ofNat, le_div_iff₀ hdenQ]
    calc (2 : ℚ) ^ ((Nat.log2 num : Int) - Nat.log2 den - 1) * den
        ≤ (2 : ℚ) ^ ((Nat.log2 num : Int) - Nat.log2 den - 1)
            * (2 : ℚ) ^ ((Nat.log2 den : Int) + 1) := by gcongr
      _ = (2 : ℚ) ^ (Nat.log2 num : Int) := by
        rw [← zpow_add₀ two_ne_zero]
        congr 1
        omega
      _ ≤ num := hnumLow
  · refine Int.lt_add_one_iff.mp ((Int.lt_zpow_iff_log_lt one_lt_two hpos).mp ?_)
    rw [Nat.cast_ofNat, div_lt_iff₀ hdenQ]
    calc (num : ℚ) < (2 : ℚ) ^ ((Nat.log2 num : Int) + 1) := hnumHigh
      _ = (2 : ℚ) ^ ((Nat.log2 num : Int) - Nat.log2 den + 1)
            * (2 : ℚ) ^ (Nat.log2 den : Int) := by
        rw [← zpow_add₀ two_ne_zero]
        congr 1
        omega
      _ ≤ (2 : ℚ) ^ ((Nat.log2 num : Int) - Nat.log2 den + 1) * den := by gcongr

/-- The exponent is that of the rational: the guess is right or one too low, and whether the
significand fits tells which. -/
theorem exponentFor_eq {num den : Nat} (hnum : 0 < num) (hden : 0 < den) :
    exponentFor num den = exponentOf ((num : ℚ) / den) := by
  obtain ⟨hlow, hhigh⟩ := log_div hnum hden
  have hpos : (0 : ℚ) < (num : ℚ) / den := by positivity
  have hfits : ∀ guess : Int, (unscale 2 num den guess).1 / (unscale 2 num den guess).2
      < Nat.pow 2 53 ↔ Int.log 2 ((num : ℚ) / den) < 53 + guess := by
    intro guess
    have hscale : (0 : ℚ) < (2 : ℚ) ^ guess := zpow_pos two_pos guess
    rw [← Nat.floor_div_eq_div (K := ℚ), unscale_eq num den guess two_pos, Nat.cast_ofNat,
      Nat.floor_lt (div_pos hpos hscale).le, div_lt_iff₀ hscale,
      ← Int.lt_zpow_iff_log_lt one_lt_two hpos, Nat.cast_ofNat, zpow_add₀ two_ne_zero,
      Nat.pow_eq, Nat.cast_pow]
    norm_cast
  unfold exponentFor exponentOf
  simp only [hfits]
  split <;> omega

/-- **Rounding a quotient is rounding the rational.** -/
theorem ofRatio?_eq (negative : Bool) (num : Nat) {den : Nat} (hden : 0 < den) :
    ofRatio? negative num den = ofRational? negative ((num : ℚ) / den) := by
  by_cases hzero : num = 0
  · simp [ofRatio?, ofRational?, hzero]
  · have hnum : 0 < num := Nat.pos_of_ne_zero hzero
    have hne : (num : ℚ) / den ≠ 0 := by positivity
    simp only [ofRatio?, ofRational?, if_neg hzero, if_neg hne,
      roundHalfEven_eq _ (unscale_pos two_pos hden), unscale_eq num den _ two_pos,
      exponentFor_eq hnum hden, Nat.cast_ofNat]

/-- **Rounding the size of a number gives the number.** -/
theorem ofRational?_size (x : Binary64) : ofRational? x.negative x.size = some x := by
  by_cases hzero : x.size = 0
  · have hx : x = zero x.negative := eq_zero_of_isZero (x.isZero_iff.mpr hzero)
    rw [ofRational?, if_pos hzero, ← hx]
  · have hpos : 0 < x.size := lt_of_le_of_ne x.size_nonneg (Ne.symm hzero)
    have hscale : (0 : ℚ) < (2 : ℚ) ^ x.exponent := zpow_pos two_pos _
    obtain ⟨hlt, hleast, -, hleading⟩ := x.canonical
    have hltQ : (x.significand : ℚ) < (2 : ℚ) ^ (53 : Int) := by exact_mod_cast hlt
    have hbelow : Int.log 2 x.size < 53 + x.exponent := by
      refine (Int.lt_zpow_iff_log_lt one_lt_two hpos).mp ?_
      rw [Nat.cast_ofNat, zpow_add₀ two_ne_zero, size]
      gcongr
    have hexponent : exponentOf x.size = x.exponent := by
      -- at the least exponent the leading bit need not be set, and the logarithm may be lower
      rcases hleading with hle | hleast
      · have hleQ : (2 : ℚ) ^ (52 : Int) ≤ x.significand := by exact_mod_cast hle
        have habove : 52 + x.exponent ≤ Int.log 2 x.size := by
          refine (Int.zpow_le_iff_le_log one_lt_two hpos).mp ?_
          rw [Nat.cast_ofNat, zpow_add₀ two_ne_zero, size]
          gcongr
        unfold exponentOf
        omega
      · unfold exponentOf
        omega
    have hsignificand : x.size / (2 : ℚ) ^ x.exponent = x.significand := by
      rw [size, mul_div_assoc, div_self hscale.ne', mul_one]
    rw [ofRational?, if_neg hzero, hexponent, hsignificand, nearest_natCast, if_pos hlt, ofParts?,
      dif_pos x.canonical]

/-! ## 4. Rounding a decimal -/

/-- The number of digits tells between which powers of ten a natural lies. -/
theorem digitCount_bounds {n : Nat} (hn : n ≠ 0) :
    (10 : ℚ) ^ ((digitCount n : Int) - 1) ≤ n ∧ (n : ℚ) < (10 : ℚ) ^ (digitCount n : Int) := by
  have hpos : 0 < digitCount n := Nat.length_toDigits_pos
  constructor
  · obtain ⟨k, hk⟩ : ∃ k, digitCount n = k + 1 := ⟨digitCount n - 1, by omega⟩
    have hle : 10 ^ k ≤ n := by
      cases k with
      | zero => exact Nat.one_le_iff_ne_zero.mpr hn
      | succ k =>
        refine Nat.le_of_not_lt fun hlt => ?_
        have hshort : digitCount n ≤ k + 1 :=
          (Nat.length_toDigits_le_iff (by decide) k.succ_pos).mpr hlt
        omega
    rw [hk, Nat.cast_succ, add_sub_cancel_right, zpow_natCast]
    exact_mod_cast hle
  · rw [zpow_natCast]
    exact_mod_cast (Nat.length_toDigits_le_iff (by decide) hpos).mp (le_refl (digitCount n))

/-- What is less than half the least number rounds to zero. -/
theorem ofRational?_of_small (negative : Bool) {q : ℚ} (hpos : 0 < q)
    (h : q < (2 : ℚ) ^ (-1075 : Int)) : ofRational? negative q = some (zero negative) := by
  have hlog : Int.log 2 q < -1075 :=
    (Int.lt_zpow_iff_log_lt one_lt_two hpos).mp (by rwa [Nat.cast_ofNat])
  have hexponent : exponentOf q = -1074 := by
    unfold exponentOf
    omega
  have hscale : (0 : ℚ) < (2 : ℚ) ^ (-1074 : Int) := zpow_pos two_pos _
  have hhalf : q / (2 : ℚ) ^ (-1074 : Int) < 1 / 2 := by
    rw [div_lt_iff₀ hscale]
    calc q < (2 : ℚ) ^ (-1075 : Int) := h
      _ = 1 / 2 * (2 : ℚ) ^ (-1074 : Int) := by
        rw [show (-1075 : Int) = -1 + -1074 by decide, zpow_add₀ two_ne_zero, zpow_neg_one,
          one_div]
  have hfloor : ⌊q / (2 : ℚ) ^ (-1074 : Int)⌋₊ = 0 := Nat.floor_eq_zero.mpr (by linarith)
  have hnearest : nearest (q / (2 : ℚ) ^ (-1074 : Int)) = 0 := by
    rw [nearest, hfloor, Nat.cast_zero, sub_zero, if_pos hhalf]
  rw [ofRational?, if_neg hpos.ne', hexponent, hnearest]
  rfl

/-- What is beyond all finite numbers by a binary place has no number. -/
theorem ofRational?_of_large (negative : Bool) {q : ℚ} (h : (2 : ℚ) ^ (1024 : Int) ≤ q) :
    ofRational? negative q = none := by
  have hpos : 0 < q := lt_of_lt_of_le (zpow_pos two_pos _) h
  have hlog : 1024 ≤ Int.log 2 q :=
    (Int.zpow_le_iff_le_log one_lt_two hpos).mp (by rwa [Nat.cast_ofNat])
  have hexponent : 972 ≤ exponentOf q := by
    unfold exponentOf
    omega
  have hnone : ∀ (significand : Nat) (exponent : Int), 972 ≤ exponent →
      ofParts? negative significand exponent = none := by
    intro significand exponent hle
    refine dif_neg fun hcanonical => ?_
    have hmost : exponent ≤ 971 := hcanonical.2.2.1
    omega
  rw [ofRational?, if_neg hpos.ne', hnone _ _ hexponent, hnone _ _ (by omega), ite_self]

theorem two_pow_le_ten_pow : (2 : ℚ) ^ (1024 : Int) ≤ (10 : ℚ) ^ (310 : Int) := by
  have h : (2 : ℕ) ^ 1024 ≤ 10 ^ 310 := by decide +kernel
  exact_mod_cast h

theorem ten_pow_lt_two_pow : (10 : ℚ) ^ (-331 : Int) < (2 : ℚ) ^ (-1075 : Int) := by
  have h : (2 : ℕ) ^ 1075 < 10 ^ 331 := by decide +kernel
  have hQ : (2 : ℚ) ^ 1075 < (10 : ℚ) ^ 331 := by exact_mod_cast h
  rw [zpow_neg, zpow_neg]
  exact inv_strictAnti₀ (zpow_pos two_pos _) (by exact_mod_cast hQ)

/-- **Rounding a decimal is rounding the rational**, also where the number of its digits alone
has given the answer. -/
theorem ofDecimal?_eq (negative : Bool) (digits : Nat) (exponent : Int) :
    ofDecimal? negative digits exponent
      = ofRational? negative ((digits : ℚ) * (10 : ℚ) ^ exponent) := by
  by_cases hzero : digits = 0
  · simp [ofDecimal?, ofRational?, hzero]
  obtain ⟨hlow, hhigh⟩ := digitCount_bounds hzero
  have hscale : (0 : ℚ) < (10 : ℚ) ^ exponent := zpow_pos (by norm_num) _
  have hpos : (0 : ℚ) < (digits : ℚ) * (10 : ℚ) ^ exponent := by positivity
  unfold ofDecimal?
  simp only [hzero, false_or]
  split_ifs with hsmall hlarge hexponent
  · refine (ofRational?_of_small negative hpos ?_).symm
    calc (digits : ℚ) * (10 : ℚ) ^ exponent
        ≤ (10 : ℚ) ^ (digitCount digits : Int) * (10 : ℚ) ^ exponent := by gcongr
      _ = (10 : ℚ) ^ ((digitCount digits : Int) + exponent) := (zpow_add₀ (by norm_num) _ _).symm
      _ ≤ (10 : ℚ) ^ (-331 : Int) := zpow_le_zpow_right₀ (by norm_num) (by omega)
      _ < (2 : ℚ) ^ (-1075 : Int) := ten_pow_lt_two_pow
  · refine (ofRational?_of_large negative ?_).symm
    calc (2 : ℚ) ^ (1024 : Int) ≤ (10 : ℚ) ^ (310 : Int) := two_pow_le_ten_pow
      _ ≤ (10 : ℚ) ^ ((digitCount digits : Int) - 1 + exponent) :=
        zpow_le_zpow_right₀ (by norm_num) (by omega)
      _ = (10 : ℚ) ^ ((digitCount digits : Int) - 1) * (10 : ℚ) ^ exponent :=
        zpow_add₀ (by norm_num) _ _
      _ ≤ (digits : ℚ) * (10 : ℚ) ^ exponent := by gcongr
  · rw [ofRatio?_eq negative _ Nat.one_pos, Nat.cast_mul, cast_pow_toNat 10 hexponent,
      Nat.cast_one, div_one, Nat.cast_ofNat]
  · have hneg : 0 ≤ -exponent := by omega
    have hden : 0 < Nat.pow 10 (-exponent).toNat := Nat.pow_pos (by decide)
    rw [ofRatio?_eq negative _ hden, cast_pow_toNat 10 hneg, Nat.cast_ofNat, zpow_neg,
      div_inv_eq_mul]

end Binary64

end FieldRules

/-
# The shortest decimal reads back

The search for a short decimal tries grids of decimals and takes what reads back; where none does
it falls back on the number's own expansion.  So whatever it returns reads back
(`readsBack_search`), and moving the zeros at the end of the digits into the exponent does not
change the decimal (`Decimal.value_trim`).  The shortest decimal of a number therefore rounds to
that number: `readsBack_shortest`.
-/
import FieldRules.Binary64.Shortest
import FieldRules.Proofs.Binary64.Rounding

namespace FieldRules

namespace Decimal

/-! ## 1. The rational that a decimal stands for -/

/-- The rational that a decimal stands for. -/
def value (d : Decimal) : ℚ := d.digits * (10 : ℚ) ^ d.exponent

/-- Each zero that is taken off the digits is a step of the exponent. -/
theorem value_trimmed : ∀ (fuel digits : Nat) (exponent : Int),
    (trimmed fuel digits exponent).value = digits * (10 : ℚ) ^ exponent
  | 0, _, _ => rfl
  | fuel + 1, digits, exponent => by
    unfold trimmed
    split
    · rename_i hzero
      have hdigits : (digits : ℚ) = ((digits / 10 : ℕ) : ℚ) * 10 := by
        exact_mod_cast (Nat.div_mul_cancel (Nat.dvd_of_mod_eq_zero hzero)).symm
      rw [value_trimmed fuel, zpow_add_one₀ (by norm_num), hdigits]
      ring
    · rfl

theorem value_trim (d : Decimal) : d.trim.value = d.value := value_trimmed _ _ _

end Decimal

namespace Binary64

/-! ## 2. Whatever the search returns reads back -/

/-- A decimal reads back when its rational rounds to the number. -/
theorem readsBack_iff (x : Binary64) (d : Decimal) :
    x.readsBack d = true ↔ ofRational? x.negative d.value = some x := by
  rw [readsBack, decide_eq_true_iff, ofDecimal?_eq, Decimal.value]

theorem readsBack_of_onGrid? {x : Binary64} {exponent : Int} {d : Decimal}
    (h : x.onGrid? exponent = some d) : x.readsBack d = true := by
  unfold onGrid? at h
  dsimp only at h
  split_ifs at h with hnear hlow habove hbelow <;> cases h
  · exact hnear
  · exact habove
  · exact hbelow

/-- A binary place is five decimal ones of a tenth of it. -/
theorem value_exactDecimal (x : Binary64) : x.exactDecimal.value = x.size := by
  unfold exactDecimal Decimal.value size
  split
  · rename_i h
    simp only [Nat.cast_mul, cast_pow_toNat 2 h]
    simp
  · rename_i h
    have hneg : 0 ≤ -x.exponent := by omega
    have hten : (10 : ℚ) = 5 * 2 := by norm_num
    have hfive : (5 : ℚ) ^ x.exponent ≠ 0 := zpow_ne_zero _ (by norm_num)
    simp only [Nat.cast_mul, cast_pow_toNat 5 hneg, Nat.cast_ofNat]
    rw [hten, mul_zpow, zpow_neg]
    field_simp

theorem readsBack_exactDecimal (x : Binary64) : x.readsBack x.exactDecimal = true := by
  rw [readsBack_iff, value_exactDecimal, ofRational?_size]

/-- **Whatever the search returns reads back**, wherever it begins and however long it goes on. -/
theorem readsBack_search (x : Binary64) (leading : Int) : ∀ fuel count : Nat,
    x.readsBack (search x leading fuel count) = true
  | 0, _ => x.readsBack_exactDecimal
  | fuel + 1, count => by
    unfold search
    split
    · rename_i d hgrid
      exact readsBack_of_onGrid? hgrid
    · exact readsBack_search x leading fuel (count + 1)

/-- **The shortest decimal of a number reads back as the number.** -/
theorem readsBack_shortest (x : Binary64) : x.readsBack x.shortest = true := by
  rw [readsBack_iff, shortest, Decimal.value_trim, ← readsBack_iff]
  exact readsBack_search x _ _ _

/-- Only the two zeros have a decimal without digits. -/
theorem digits_ne_zero_of_readsBack {x : Binary64} {d : Decimal} (hx : x.isZero = false)
    (h : x.readsBack d = true) : d.digits ≠ 0 := by
  intro hdigits
  have hzero : zero x.negative = x := by
    simpa [readsBack, ofDecimal?, hdigits] using h
  have hisZero : x.isZero = true := by
    rw [← hzero]
    rfl
  simp [hx] at hisZero

end Binary64

end FieldRules

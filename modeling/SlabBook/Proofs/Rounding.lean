import Mathlib.Algebra.Order.Field.Power
import Mathlib.Data.Rat.Cast.Order
import Mathlib.Tactic.FieldSimp
import Mathlib.Tactic.Linarith
import Mathlib.Tactic.Positivity
import Mathlib.Tactic.Ring
import SlabBook.Number.Rounding

/-!
# How far rounding goes

A ratio that is rounded to a number of significant digits moves by at most half a unit of the last of
them, which is small next to the ratio itself.

* `Digits.pow_length_le`, `Digits.lt_pow_length` — how long a number is;
* `Rounding.nearestEven_error`, `Rounding.nearestEven_even` — the nearest whole number;
* `Rounding.leading_le`, `Rounding.lt_leading` — the ratio lies between the leading digit's power of the
  base and the next one;
* `Rounding.significant_error` — the relative error.
-/

namespace SlabBook

namespace Digits

variable {base : Nat}

theorem lt_pow_length (proper : 2 ≤ base) (value : Nat) :
    value < base ^ (digits base value).length := by
  fun_induction digits base value with
  | case1 value done =>
    have zero : value = 0 := by omega
    simp [zero]
  | case2 value done ih =>
    have split : base * (value / base) + value % base = value := Nat.div_add_mod value base
    have rest : value % base < base := Nat.mod_lt _ (by omega)
    rw [List.length_append, List.length_singleton, Nat.pow_succ]
    calc value < base * (value / base + 1) := by rw [Nat.mul_add]; omega
      _ ≤ base * base ^ (digits base (value / base)).length := Nat.mul_le_mul_left base ih
      _ = base ^ (digits base (value / base)).length * base := Nat.mul_comm ..

/-- The first digit is not zero. -/
theorem pow_length_le (proper : 2 ≤ base) {value : Nat} (positive : 0 < value) :
    base ^ (digits base value).length ≤ value * base := by
  fun_induction digits base value with
  | case1 value done => omega
  | case2 value done ih =>
    rw [List.length_append, List.length_singleton, Nat.pow_succ]
    refine Nat.mul_le_mul_right base ?_
    rcases Nat.eq_zero_or_pos (value / base) with none | more
    · have short : (digits base 0).length = 0 := by
        unfold digits
        simp
      rw [none, short, Nat.pow_zero]
      exact positive
    · exact (ih more).trans (Nat.div_mul_le_self value base)

end Digits

namespace Rounding

variable {base num den : Nat}

/-! ## Nearest whole numbers -/

/-- The nearest whole number is at most a half away. -/
theorem nearestEven_error (positive : 0 < den) (num : Nat) :
    2 * (nearestEven num den * den) ≤ 2 * num + den ∧
      2 * num ≤ 2 * (nearestEven num den * den) + den := by
  have split : den * (num / den) + num % den = num := Nat.div_add_mod num den
  have rest : num % den < den := Nat.mod_lt num positive
  have below : num / den * den = den * (num / den) := Nat.mul_comm ..
  unfold nearestEven
  dsimp only
  split
  · rw [Nat.add_mul]
    omega
  · omega

/-- A nearest whole number that is a half away is even. -/
theorem nearestEven_even (positive : 0 < den) (num : Nat)
    (tie : 2 * (nearestEven num den * den) = 2 * num + den ∨
      2 * num = 2 * (nearestEven num den * den) + den) : Even (nearestEven num den) := by
  have split : den * (num / den) + num % den = num := Nat.div_add_mod num den
  have rest : num % den < den := Nat.mod_lt num positive
  have below : num / den * den = den * (num / den) := Nat.mul_comm ..
  rw [Nat.even_iff]
  unfold nearestEven at tie ⊢
  dsimp only at tie ⊢
  split at tie
  next upper =>
    rw [if_pos upper]
    rw [Nat.add_mul] at tie
    omega
  next lower =>
    rw [if_neg lower]
    omega

/-! ## Powers of the base -/

/-- A power of the base of either sign, written with powers that are whole numbers. -/
theorem pow_toNat (positive : 0 < base) (exponent : Int) :
    (base : ℚ) ^ exponent.toNat = base ^ exponent * base ^ (-exponent).toNat := by
  have nonzero : (base : ℚ) ≠ 0 := by positivity
  rw [← zpow_natCast, ← zpow_natCast, ← zpow_add₀ nonzero]
  congr 1
  omega

/-- The test that finds the leading digit compares the ratio with a power of the base. -/
theorem zpow_le_ratio_iff (proper : 0 < base) (positive : 0 < den) (exponent : Int) :
    den * base.pow exponent.toNat ≤ num * base.pow (-exponent).toNat ↔
      (base : ℚ) ^ exponent ≤ num / den := by
  have den_pos : (0 : ℚ) < den := by exact_mod_cast positive
  have scale_pos : (0 : ℚ) < base ^ (-exponent).toNat := by positivity
  rw [le_div_iff₀ den_pos, ← mul_le_mul_iff_left₀ scale_pos, mul_right_comm,
    ← pow_toNat proper exponent, mul_comm _ (den : ℚ)]
  simp only [Nat.pow_eq]
  exact_mod_cast Iff.rfl

/-- The leading digit's power of the base does not exceed the ratio. -/
theorem leading_le (proper : 2 ≤ base) (num_pos : 0 < num) (den_pos : 0 < den) :
    (base : ℚ) ^ leading base num den ≤ num / den := by
  have base_pos : 0 < base := by omega
  unfold leading
  dsimp only
  split
  next reached => exact (zpow_le_ratio_iff base_pos den_pos _).1 reached
  next missed =>
    -- the denominator has no more digits than are counted, and the numerator has all of its own
    have above : (base : ℚ) ^ (Digits.digits base num).length ≤ num * base := by
      exact_mod_cast Digits.pow_length_le proper num_pos
    have below : (den : ℚ) ≤ base ^ (Digits.digits base den).length := by
      exact_mod_cast (Digits.lt_pow_length proper den).le
    have nonzero : (base : ℚ) ≠ 0 := by positivity
    have den_rat : (0 : ℚ) < den := by exact_mod_cast den_pos
    have base_rat : (0 : ℚ) < base := by exact_mod_cast base_pos
    rw [zpow_sub_one₀ nonzero, zpow_sub₀ nonzero, zpow_natCast, zpow_natCast, ← div_eq_mul_inv,
      div_div, div_le_div_iff₀ (by positivity) den_rat]
    calc (base : ℚ) ^ (Digits.digits base num).length * den
        ≤ num * base * base ^ (Digits.digits base den).length := by gcongr
      _ = num * (base ^ (Digits.digits base den).length * base) := by ring

/-- The ratio does not reach the power of the base after the leading digit's. -/
theorem lt_leading (proper : 2 ≤ base) (den_pos : 0 < den) :
    (num : ℚ) / den < (base : ℚ) ^ (leading base num den + 1) := by
  have base_pos : 0 < base := by omega
  unfold leading
  dsimp only
  split
  next reached =>
    -- the denominator has all of its own digits, and the numerator no more than are counted
    have above : (num : ℚ) < base ^ (Digits.digits base num).length := by
      exact_mod_cast Digits.lt_pow_length proper num
    have below : (base : ℚ) ^ (Digits.digits base den).length ≤ den * base := by
      exact_mod_cast Digits.pow_length_le proper den_pos
    have nonzero : (base : ℚ) ≠ 0 := by positivity
    have den_rat : (0 : ℚ) < den := by exact_mod_cast den_pos
    have base_rat : (0 : ℚ) < base := by exact_mod_cast base_pos
    rw [zpow_add_one₀ nonzero, zpow_sub₀ nonzero, zpow_natCast, zpow_natCast, div_lt_iff₀ den_rat,
      div_mul_eq_mul_div, div_mul_eq_mul_div, lt_div_iff₀ (by positivity)]
    calc (num : ℚ) * base ^ (Digits.digits base den).length
        < base ^ (Digits.digits base num).length * base ^ (Digits.digits base den).length := by
          gcongr
      _ ≤ base ^ (Digits.digits base num).length * (den * base) := by gcongr
      _ = base ^ (Digits.digits base num).length * base * den := by ring
  next missed =>
    rw [sub_add_cancel]
    exact lt_of_not_ge fun reached => missed ((zpow_le_ratio_iff base_pos den_pos _).2 reached)

/-! ## Significant digits -/

/-- A ratio is at most half a unit away from its nearest multiple of a power of the base. -/
theorem atExponent_error (base_pos : 0 < base) (den_pos : 0 < den) (num : Nat) (exponent : Int) :
    |(atExponent base exponent num den : ℚ) * base ^ exponent - num / den| ≤
      base ^ exponent / 2 := by
  have den_rat : (0 : ℚ) < den := by exact_mod_cast den_pos
  have scale_pos : (0 : ℚ) < base ^ (-exponent).toNat := by positivity
  have positive : 0 < den * base.pow exponent.toNat :=
    Nat.mul_pos den_pos (Nat.pow_pos base_pos)
  obtain ⟨upper, lower⟩ := nearestEven_error positive (num * base.pow (-exponent).toNat)
  rw [← atExponent] at upper lower
  generalize atExponent base exponent num den = kept at upper lower ⊢
  simp only [Nat.pow_eq] at upper lower
  have upper_rat : (2 : ℚ) * (kept * (den * base ^ exponent.toNat)) ≤
      2 * (num * base ^ (-exponent).toNat) + den * base ^ exponent.toNat := by
    exact_mod_cast upper
  have lower_rat : (2 : ℚ) * (num * base ^ (-exponent).toNat) ≤
      2 * (kept * (den * base ^ exponent.toNat)) + den * base ^ exponent.toNat := by
    exact_mod_cast lower
  rw [pow_toNat base_pos exponent] at upper_rat lower_rat
  have unit_pos : (0 : ℚ) < den * base ^ (-exponent).toNat := by positivity
  have ratio : (num : ℚ) / den * (den * base ^ (-exponent).toNat) =
      num * base ^ (-exponent).toNat := by
    field_simp
  rw [abs_le]
  constructor
  · refine le_of_mul_le_mul_right ?_ unit_pos
    linarith
  · refine le_of_mul_le_mul_right ?_ unit_pos
    linarith

/-- Rounding to significant digits moves a ratio by little of itself. -/
theorem significant_error (proper : 2 ≤ base) (precision : Nat) (num_pos : 0 < num)
    (den_pos : 0 < den) :
    |((significant base precision num den).1 : ℚ) *
        base ^ (significant base precision num den).2 - num / den| ≤
      num / den * (1 / (2 * base ^ (precision - 1))) := by
  have base_pos : 0 < base := by omega
  have nonzero : (base : ℚ) ≠ 0 := by positivity
  have near := atExponent_error base_pos den_pos num
    (leading base num den - (precision - 1 : Nat))
  refine near.trans ?_
  have unit : (base : ℚ) ^ (leading base num den - ((precision - 1 : Nat) : Int)) / 2 =
      base ^ leading base num den * (1 / (2 * base ^ (precision - 1))) := by
    rw [zpow_sub₀ nonzero, zpow_natCast]
    field_simp
  rw [unit]
  have small := leading_le proper num_pos den_pos
  gcongr

end Rounding
end SlabBook

import SlabBook.Number.Decimal
import SlabBook.Proofs.Rounding

/-!
# The amount of a decimal number

A finite decimal number stands for a rational one.  Integers and powers of ten within the limits stand
for themselves, and a product or a quotient for the exact one times a factor that is one up to half a
unit of the last of 80 digits.

* `exists_rounded_mul`, `exists_rounded_div` — what one operation rounds;
* `toRat?_mul`, `toRat?_div` — the error of one operation.
-/

namespace SlabBook

namespace Digits

/-- Trailing zeros go into the power of ten. -/
theorem stripZeros_value (value : Nat) (exponent : Int) :
    ((stripZeros value exponent).1 : ℚ) * 10 ^ (stripZeros value exponent).2 =
      value * 10 ^ exponent := by
  fun_induction stripZeros value exponent with
  | case1 value exponent done => rfl
  | case2 value exponent more ih =>
    have split : value / 10 * 10 = value := by omega
    have cast : ((value / 10 : Nat) : ℚ) * 10 = value := by exact_mod_cast split
    rw [ih, zpow_add_one₀ (by norm_num), ← mul_assoc, mul_right_comm, cast]

end Digits

namespace Decimal

def signed (negative : Bool) (magnitude : ℚ) : ℚ := if negative then -magnitude else magnitude

/-- The rational number that a finite number stands for. -/
def toRat? : Decimal → Option ℚ
  | .finite negative coefficient exponent => some (signed negative (coefficient * 10 ^ exponent))
  | _ => none

/-- Half a unit of the last digit of a number whose first digit counts ones. -/
def slack : ℚ := 1 / (2 * 10 ^ (precision - 1))

theorem slack_nonneg : 0 ≤ slack := by
  unfold slack
  positivity

variable {first second : ℚ}

theorem signed_mul (negative : Bool) (first second : ℚ) :
    signed negative (first * second) = signed negative first * second := by
  cases negative <;> simp [signed]

theorem signed_xor (negative other : Bool) (first second : ℚ) :
    signed (negative ^^ other) (first * second) = signed negative first * signed other second := by
  cases negative <;> cases other <;> simp [signed]

theorem signed_xor_div (negative other : Bool) (first second : ℚ) :
    signed (negative ^^ other) (first / second) = signed negative first / signed other second := by
  cases negative <;> cases other <;> simp [signed, neg_div, div_neg]

/-! ## Exact numbers -/

theorem toRat?_ofInt (value : Int) : (ofInt value).toRat? = some (value : ℚ) := by
  simp only [ofInt, toRat?, zpow_zero, mul_one, Option.some.injEq]
  rcases lt_or_ge value 0 with below | above
  · simp [signed, below, Nat.cast_natAbs, abs_of_neg below]
  · simp [signed, not_lt.2 above, Nat.cast_natAbs, abs_of_nonneg above]

/-- Within the limits a power of ten is exact. -/
theorem toRat?_powerOfTen {exponent : Int} (limited : |exponent| ≤ maxExponent) :
    (powerOfTen exponent).toRat? = some ((10 : ℚ) ^ exponent) := by
  obtain ⟨lower, upper⟩ := abs_le.1 limited
  rw [powerOfTen, if_neg (not_lt.2 upper), if_neg (not_lt.2 lower)]
  simp [toRat?, signed]

/-! ## Rounded numbers -/

/-- Rounding multiplies by a factor close to one. -/
theorem toRat?_rounded (negative : Bool) (num : Nat) {den : Nat} (den_pos : 0 < den)
    (exponent : Int) :
    ∃ factor, |factor - 1| ≤ slack ∧ (rounded negative num den exponent).toRat? =
      some (signed negative (num / den * 10 ^ exponent) * factor) := by
  unfold rounded
  split
  next zero =>
    refine ⟨1, by simpa using slack_nonneg, ?_⟩
    simp [toRat?, zero]
  next nonzero =>
    have num_pos : 0 < num := Nat.pos_of_ne_zero nonzero
    have den_rat : (0 : ℚ) < den := by exact_mod_cast den_pos
    have num_rat : (0 : ℚ) < num := by exact_mod_cast num_pos
    have ratio_pos : (0 : ℚ) < num / den := by positivity
    have proper : 2 ≤ 10 := by decide
    have error := Rounding.significant_error proper precision num_pos den_pos
    have stripped := Digits.stripZeros_value (Rounding.significant 10 precision num den).1
      ((Rounding.significant 10 precision num den).2 + exponent)
    rw [zpow_add₀ (by norm_num), ← mul_assoc] at stripped
    dsimp only
    simp only [toRat?, stripped]
    push_cast at error
    generalize ((Rounding.significant 10 precision num den).1 : ℚ) *
      10 ^ (Rounding.significant 10 precision num den).2 = kept at error ⊢
    refine ⟨kept / (num / den), ?_, ?_⟩
    · rw [div_sub_one ratio_pos.ne', abs_div, abs_of_pos ratio_pos, div_le_iff₀ ratio_pos, mul_comm]
      exact error
    · rw [← signed_mul]
      congr 2
      field_simp

variable {x y : Decimal}

theorem exists_of_toRat? (denotes : x.toRat? = some first) :
    ∃ negative coefficient exponent, x = .finite negative coefficient exponent ∧
      first = signed negative (coefficient * 10 ^ exponent) := by
  cases x with
  | nan => cases denotes
  | infinite negative => cases denotes
  | finite negative coefficient exponent =>
    exact ⟨negative, coefficient, exponent, rfl, (Option.some.inj denotes).symm⟩

/-- A product is the exact one, rounded. -/
theorem exists_rounded_mul (denotes : x.toRat? = some first) (denotes_too : y.toRat? = some second) :
    ∃ negative num den exponent, 0 < den ∧ x * y = rounded negative num den exponent ∧
      signed negative (num / den * 10 ^ exponent) = first * second := by
  obtain ⟨s, c, e, rfl, rfl⟩ := exists_of_toRat? denotes
  obtain ⟨t, d, f, rfl, rfl⟩ := exists_of_toRat? denotes_too
  refine ⟨s ^^ t, c * d, 1, e + f, Nat.one_pos, rfl, ?_⟩
  rw [← signed_xor, zpow_add₀ (by norm_num)]
  push_cast
  congr 1
  ring

/-- A quotient is the exact one, rounded. -/
theorem exists_rounded_div (denotes : x.toRat? = some first) (denotes_too : y.toRat? = some second)
    (nonzero : second ≠ 0) :
    ∃ negative num den exponent, 0 < den ∧ x / y = rounded negative num den exponent ∧
      signed negative (num / den * 10 ^ exponent) = first / second := by
  obtain ⟨s, c, e, rfl, rfl⟩ := exists_of_toRat? denotes
  obtain ⟨t, d, f, rfl, rfl⟩ := exists_of_toRat? denotes_too
  have divisor : d ≠ 0 := by
    rintro rfl
    exact nonzero (by cases t <;> simp [signed])
  refine ⟨s ^^ t, c, d, e - f, Nat.pos_of_ne_zero divisor, ?_, ?_⟩
  · show div _ _ = _
    rw [div, if_neg divisor]
  · rw [← signed_xor_div, zpow_sub₀ (by norm_num)]
    congr 1
    field_simp

/-- A product is the exact one up to a factor close to one. -/
theorem toRat?_mul (denotes : x.toRat? = some first) (denotes_too : y.toRat? = some second) :
    ∃ factor, |factor - 1| ≤ slack ∧ (x * y).toRat? = some (first * second * factor) := by
  obtain ⟨negative, num, den, exponent, den_pos, made, exact_product⟩ :=
    exists_rounded_mul denotes denotes_too
  rw [made, ← exact_product]
  exact toRat?_rounded negative num den_pos exponent

/-- A quotient is the exact one up to a factor close to one. -/
theorem toRat?_div (denotes : x.toRat? = some first) (denotes_too : y.toRat? = some second)
    (nonzero : second ≠ 0) :
    ∃ factor, |factor - 1| ≤ slack ∧ (x / y).toRat? = some (first / second * factor) := by
  obtain ⟨negative, num, den, exponent, den_pos, made, exact_quotient⟩ :=
    exists_rounded_div denotes denotes_too nonzero
  rw [made, ← exact_quotient]
  exact toRat?_rounded negative num den_pos exponent

end Decimal
end SlabBook

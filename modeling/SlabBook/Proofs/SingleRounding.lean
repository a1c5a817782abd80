import Mathlib.Data.Int.Log
import Mathlib.Data.Rat.Floor
import SlabBook.Market
import SlabBook.Proofs.Amount

/-!
# Scaling rounds once

Rounding to 80 significant digits as a function on rational numbers, which knows neither coefficients
nor digit counts: `Decimal.nearest` takes the nearest multiple of the unit of the last digit.  A product
or a quotient of decimal numbers is the exact one, rounded that way.  A number that is short enough is
not changed, so of the three steps on the way to a price only the last one can round.  No step may
leave the limits of an exponent, or a price is infinite and a quantity zero.

* `halfEven_eq_iff` — the nearest integer, a half to the even neighbour, and no other;
* `Decimal.Short.nearest_eq` — what has no more than 80 digits is kept;
* `Decimal.toRat?_mul_eq`, `Decimal.toRat?_div_eq` — one operation;
* `Market.scaling_rounds_once` — prices and quantities;
* `Market.scaling_far` — decimals beyond the limits.
-/

namespace SlabBook

/-! ## Nearest integers -/

/-- The integer nearest to a number; a half goes to the even neighbour. -/
def halfEven (value : ℚ) : ℤ :=
  if Int.fract value < 1 / 2 then ⌊value⌋
  else if 1 / 2 < Int.fract value then ⌊value⌋ + 1
  else ⌊value⌋ + ⌊value⌋ % 2

theorem halfEven_near (value : ℚ) :
    |value - halfEven value| ≤ 1 / 2 ∧
      (|value - halfEven value| = 1 / 2 → Even (halfEven value)) := by
  have split := Int.floor_add_fract value
  have nonneg := Int.fract_nonneg value
  have below := Int.fract_lt_one value
  unfold halfEven
  split_ifs with less more
  · have close : |value - ⌊value⌋| < 1 / 2 := abs_lt.2 ⟨by linarith, by linarith⟩
    exact ⟨close.le, fun tie => absurd tie close.ne⟩
  · have close : |value - (⌊value⌋ + 1 : ℤ)| < 1 / 2 := by
      push_cast
      exact abs_lt.2 ⟨by linarith, by linarith⟩
    exact ⟨close.le, fun tie => absurd tie close.ne⟩
  · have half : value = ⌊value⌋ + 1 / 2 := by linarith
    refine ⟨?_, fun _ => Int.even_iff.2 (by omega)⟩
    rcases Int.emod_two_eq_zero_or_one ⌊value⌋ with even | odd
    · rw [even, add_zero, abs_le]
      constructor <;> linarith
    · rw [odd, abs_le]
      push_cast
      constructor <;> linarith

/-- Two integers that are both within a half of a number have it midway between them, and one of the
two is odd. -/
theorem eq_of_near {value : ℚ} {first second : ℤ} (close : |value - first| ≤ 1 / 2)
    (even : |value - first| = 1 / 2 → Even first) (close_too : |value - second| ≤ 1 / 2)
    (even_too : |value - second| = 1 / 2 → Even second) : first = second := by
  wlog less : first < second generalizing first second
  · rcases lt_trichotomy first second with below | equal | above
    · exact absurd below less
    · exact equal
    · exact (this close_too even_too close even above).symm
  have apart : (first : ℚ) + 1 ≤ second := by exact_mod_cast less
  obtain ⟨-, upper⟩ := abs_le.1 close
  obtain ⟨lower, -⟩ := abs_le.1 close_too
  have middle : value = first + 1 / 2 := by linarith
  have next : second = first + 1 := by
    have next_rat : (second : ℚ) = first + 1 := by linarith
    exact_mod_cast next_rat
  subst next
  have first_even := even (by rw [middle]; norm_num)
  have next_even := even_too (by rw [middle]; push_cast; norm_num)
  exact absurd first_even (Int.even_add_one.1 next_even)

/-- The nearest integer is the only one within a half that is even when it is a half away. -/
theorem halfEven_eq_iff {value : ℚ} {nearest : ℤ} :
    halfEven value = nearest ↔
      |value - nearest| ≤ 1 / 2 ∧ (|value - nearest| = 1 / 2 → Even nearest) := by
  obtain ⟨close, even⟩ := halfEven_near value
  constructor
  · rintro rfl
    exact ⟨close, even⟩
  · rintro ⟨close_too, even_too⟩
    exact eq_of_near close even close_too even_too

theorem halfEven_neg (value : ℚ) : halfEven (-value) = -halfEven value := by
  obtain ⟨close, even⟩ := halfEven_near value
  have mirrored : |-value - ((-halfEven value : ℤ) : ℚ)| = |value - halfEven value| := by
    rw [← abs_neg]
    congr 1
    push_cast
    ring
  rw [halfEven_eq_iff, mirrored]
  exact ⟨close, fun tie => (even tie).neg⟩

@[simp] theorem halfEven_intCast (whole : ℤ) : halfEven whole = whole := by
  rw [halfEven_eq_iff]
  norm_num

/-! ## Significant digits -/

namespace Decimal

/-- The number has at most 80 digits before its trailing zeros. -/
def Short (value : ℚ) : Prop :=
  ∃ digits exponent : ℤ, |digits| < 10 ^ precision ∧ value = digits * 10 ^ exponent

/-- The power of ten that the last of 80 significant digits counts. -/
def unit (value : ℚ) : ℚ := 10 ^ (Int.log 10 |value| - (precision - 1 : Nat))

/-- The number rounded to 80 significant digits, a half to the even neighbour. -/
def nearest (value : ℚ) : ℚ := halfEven (value / unit value) * unit value

variable {value : ℚ} {exponent : ℤ}

theorem log_eq_of_between (lower : (10 : ℚ) ^ exponent ≤ value)
    (upper : value < (10 : ℚ) ^ (exponent + 1)) : Int.log 10 value = exponent := by
  have positive : 0 < value := lt_of_lt_of_le (by positivity) lower
  apply le_antisymm
  · exact Int.lt_add_one_iff.1
      ((Int.lt_zpow_iff_log_lt (by decide) positive).1 (by exact_mod_cast upper))
  · exact (Int.zpow_le_iff_le_log (by decide) positive).1 (by exact_mod_cast lower)

theorem log_mul_zpow (positive : 0 < value) (exponent : ℤ) :
    Int.log 10 (value * 10 ^ exponent) = Int.log 10 value + exponent := by
  have lower := Int.zpow_log_le_self (b := 10) (by decide) positive
  have upper := Int.lt_zpow_succ_log_self (b := 10) (by decide) value
  push_cast at lower upper
  apply log_eq_of_between
  · rw [zpow_add₀ (by norm_num)]
    gcongr
  · rw [add_right_comm, zpow_add₀ (by norm_num)]
    gcongr

@[simp] theorem nearest_zero : nearest 0 = 0 := by
  have zero := halfEven_intCast 0
  rw [Int.cast_zero] at zero
  rw [nearest, zero_div, zero, Int.cast_zero, zero_mul]

theorem nearest_neg (value : ℚ) : nearest (-value) = -nearest value := by
  have same : unit (-value) = unit value := by rw [unit, unit, abs_neg]
  rw [nearest, same, neg_div, halfEven_neg, nearest]
  push_cast
  ring

theorem nearest_signed (negative : Bool) (value : ℚ) :
    nearest (signed negative value) = signed negative (nearest value) := by
  cases negative with
  | false => rfl
  | true => exact nearest_neg value

/-- A power of ten moves the point and no digit. -/
theorem nearest_mul_zpow (value : ℚ) (exponent : ℤ) :
    nearest (value * 10 ^ exponent) = nearest value * 10 ^ exponent := by
  rcases eq_or_ne value 0 with rfl | nonzero
  · rw [zero_mul, nearest_zero, zero_mul]
  have scale_pos : (0 : ℚ) < 10 ^ exponent := by positivity
  have scaled : unit (value * 10 ^ exponent) = unit value * 10 ^ exponent := by
    rw [unit, unit, abs_mul, abs_of_pos scale_pos, log_mul_zpow (abs_pos.2 nonzero),
      ← zpow_add₀ (by norm_num)]
    congr 1
    ring
  have ratio : value * 10 ^ exponent / (unit value * 10 ^ exponent) = value / unit value :=
    mul_div_mul_right _ _ scale_pos.ne'
  rw [nearest, scaled, ratio, nearest]
  ring

/-- What has no more than 80 digits is a multiple of the unit already. -/
theorem Short.nearest_eq (short : Short value) : nearest value = value := by
  obtain ⟨digits, exponent, few, rfl⟩ := short
  rw [nearest_mul_zpow]
  congr 1
  rcases eq_or_ne digits 0 with rfl | nonzero
  · exact_mod_cast nearest_zero
  have positive : (0 : ℚ) < |(digits : ℚ)| := by positivity
  have small : Int.log 10 |(digits : ℚ)| ≤ (precision - 1 : Nat) := by
    have few_rat : |(digits : ℚ)| < (10 : ℚ) ^ (precision : ℤ) := by exact_mod_cast few
    have less : Int.log 10 |(digits : ℚ)| < precision :=
      (Int.lt_zpow_iff_log_lt (by decide) positive).1 (by exact_mod_cast few_rat)
    have counted : 1 ≤ precision := by decide
    omega
  obtain ⟨count, count_eq⟩ := Int.eq_ofNat_of_zero_le (sub_nonneg.2 small)
  have unit_eq : unit digits = (10 ^ count)⁻¹ := by
    rw [unit, ← zpow_natCast, ← zpow_neg, ← count_eq, neg_sub]
  have multiple : (digits : ℚ) / unit digits = ((digits * 10 ^ count : ℤ) : ℚ) := by
    rw [unit_eq, div_inv_eq_mul]
    push_cast
    rfl
  rw [nearest, multiple, halfEven_intCast, unit_eq]
  push_cast
  field_simp

theorem Short.mul_zpow (short : Short value) (exponent : ℤ) : Short (value * 10 ^ exponent) := by
  obtain ⟨digits, power, few, rfl⟩ := short
  exact ⟨digits, power + exponent, few, by rw [zpow_add₀ (by norm_num), mul_assoc]⟩

/-- How many digits a whole number has; zero has none. -/
def places (whole : Int) : Nat := (Digits.digits 10 whole.natAbs).length

/-- The point is moved by so few places that below the greatest exponent there is room for all digits of
the whole numbers that are multiplied and divided on the way. -/
def Fits (shift : Int) (wholes : List Int) : Prop :=
  |shift| + ((wholes.map places).sum : Nat) ≤ maxExponent

theorem Fits.limited {shift : Int} {wholes : List Int} (fits : Fits shift wholes) :
    |shift| ≤ maxExponent :=
  (Int.le_add_of_nonneg_right (Int.natCast_nonneg _)).trans fits

/-- A number of 64 bits has 20 digits at most. -/
theorem places_le {whole : Int} (word : whole.natAbs < 2 ^ 64) : places whole ≤ 20 := by
  unfold places
  rcases Nat.eq_zero_or_pos whole.natAbs with zero | positive
  · rw [zero]
    decide +kernel
  have leading := Digits.pow_length_le (by decide : 2 ≤ 10) positive
  by_contra! many
  have longer : 10 ^ 21 ≤ 10 ^ (Digits.digits 10 whole.natAbs).length :=
    Nat.pow_le_pow_right (by decide) many
  omega

/-- Decimals of one byte and three numbers of 64 bits are far from the limits. -/
theorem fits_of_words {shift : Int} {wholes : List Int} (small : |shift| ≤ 255)
    (few : wholes.length ≤ 3) (words : ∀ whole ∈ wholes, whole.natAbs < 2 ^ 64) :
    Fits shift wholes := by
  have total : (wholes.map places).sum ≤ (wholes.map places).length • 20 :=
    List.sum_le_card_nsmul _ _ (List.forall_mem_map.2 fun whole among => places_le (words whole among))
  rw [List.length_map, nsmul_eq_mul, Nat.cast_id] at total
  unfold Fits maxExponent
  omega

/-- A product of two numbers of 64 bits has 39 digits at most. -/
theorem short_mul_toNat (first second : UInt64) : Short ((first.toNat : ℚ) * second.toNat) := by
  have few : first.toNat * second.toNat < 10 ^ precision :=
    calc first.toNat * second.toNat < 2 ^ 64 * 2 ^ 64 :=
          Nat.mul_lt_mul'' first.toNat_lt second.toNat_lt
      _ < 10 ^ precision := by decide +kernel
  refine ⟨first.toNat * second.toNat, 0, ?_, ?_⟩
  · rw [abs_of_nonneg (by positivity)]
    exact_mod_cast few
  · push_cast
    rw [mul_one]

end Decimal

/-! ## Rounded ratios -/

namespace Rounding

variable {base num den : Nat}

theorem nearestEven_eq_halfEven (den_pos : 0 < den) (num : Nat) :
    (nearestEven num den : ℤ) = halfEven (num / den) := by
  have den_rat : (0 : ℚ) < den := by exact_mod_cast den_pos
  obtain ⟨upper, lower⟩ := nearestEven_error den_pos num
  have even := nearestEven_even den_pos num
  generalize nearestEven num den = kept at upper lower even
  have upper_rat : (2 : ℚ) * (kept * den) ≤ 2 * num + den := by exact_mod_cast upper
  have lower_rat : (2 : ℚ) * num ≤ 2 * (kept * den) + den := by exact_mod_cast lower
  have shift : (num : ℚ) / den - kept = (num - kept * den) / den := by field_simp
  refine (halfEven_eq_iff.2 ⟨?_, fun tie => ?_⟩).symm
  · rw [Int.cast_natCast, shift, abs_div, abs_of_pos den_rat, div_le_iff₀ den_rat, abs_le]
    constructor <;> linarith
  · rw [Int.cast_natCast, shift, abs_div, abs_of_pos den_rat, div_eq_iff den_rat.ne'] at tie
    refine (Int.even_coe_nat kept).2 (even ?_)
    rcases abs_choice ((num : ℚ) - kept * den) with same | opposite
    · have equal : (2 : ℚ) * num = 2 * (kept * den) + den := by linarith
      exact Or.inr (by exact_mod_cast equal)
    · have equal : (2 : ℚ) * (kept * den) = 2 * num + den := by linarith
      exact Or.inl (by exact_mod_cast equal)

theorem atExponent_eq_halfEven (base_pos : 0 < base) (den_pos : 0 < den) (num : Nat)
    (exponent : Int) :
    (atExponent base exponent num den : ℤ) = halfEven (num / den / base ^ exponent) := by
  have den_rat : (0 : ℚ) < den := by exact_mod_cast den_pos
  have base_rat : (0 : ℚ) < base := by exact_mod_cast base_pos
  have scaled_pos : 0 < den * base.pow exponent.toNat :=
    Nat.mul_pos den_pos (Nat.pow_pos base_pos)
  rw [atExponent, nearestEven_eq_halfEven scaled_pos]
  congr 1
  simp only [Nat.pow_eq]
  push_cast
  rw [pow_toNat base_pos exponent]
  field_simp

theorem leading_eq_log (num_pos : 0 < num) (den_pos : 0 < den) :
    leading 10 num den = Int.log 10 ((num : ℚ) / den) := by
  have proper : 2 ≤ 10 := by decide
  exact (Decimal.log_eq_of_between (by exact_mod_cast leading_le proper num_pos den_pos)
    (by exact_mod_cast lt_leading proper den_pos)).symm

/-- The multiplier and the power that are kept make the nearest number. -/
theorem significant_eq_nearest (num_pos : 0 < num) (den_pos : 0 < den) :
    ((significant 10 Decimal.precision num den).1 : ℚ) *
        10 ^ (significant 10 Decimal.precision num den).2 = Decimal.nearest (num / den) := by
  have num_rat : (0 : ℚ) < num := by exact_mod_cast num_pos
  have den_rat : (0 : ℚ) < den := by exact_mod_cast den_pos
  have ratio_pos : (0 : ℚ) < num / den := by positivity
  have kept := atExponent_eq_halfEven (by decide : 0 < 10) den_pos num
    (leading 10 num den - (Decimal.precision - 1 : Nat))
  rw [Nat.cast_ofNat] at kept
  rw [Decimal.nearest, Decimal.unit, abs_of_pos ratio_pos, ← leading_eq_log num_pos den_pos, ← kept]
  rfl

end Rounding

/-! ## One operation -/

namespace Decimal

variable {x y : Decimal} {first second : ℚ}

theorem toRat?_rounded_eq (negative : Bool) (num : Nat) {den : Nat} (den_pos : 0 < den)
    (exponent : Int) :
    (rounded negative num den exponent).toRat? =
      some (nearest (signed negative (num / den * 10 ^ exponent))) := by
  rw [nearest_signed, nearest_mul_zpow]
  unfold rounded
  split
  next zero => simp [toRat?, zero]
  next nonzero =>
    have stripped := Digits.stripZeros_value (Rounding.significant 10 precision num den).1
      ((Rounding.significant 10 precision num den).2 + exponent)
    rw [zpow_add₀ (by norm_num), ← mul_assoc,
      Rounding.significant_eq_nearest (Nat.pos_of_ne_zero nonzero) den_pos] at stripped
    simp only [toRat?, stripped]

theorem toRat?_mul_eq (denotes : x.toRat? = some first) (denotes_too : y.toRat? = some second) :
    (x * y).toRat? = some (nearest (first * second)) := by
  obtain ⟨negative, num, den, exponent, den_pos, made, exact_product⟩ :=
    exists_rounded_mul denotes denotes_too
  rw [made, toRat?_rounded_eq negative num den_pos, exact_product]

theorem toRat?_div_eq (denotes : x.toRat? = some first) (denotes_too : y.toRat? = some second)
    (nonzero : second ≠ 0) : (x / y).toRat? = some (nearest (first / second)) := by
  obtain ⟨negative, num, den, exponent, den_pos, made, exact_quotient⟩ :=
    exists_rounded_div denotes denotes_too nonzero
  rw [made, toRat?_rounded_eq negative num den_pos, exact_quotient]

end Decimal

/-! ## Prices and quantities -/

namespace Market

open Decimal

variable {market : Market} {native : Int}

/-- Lots are counted without rounding as long as the product is short. -/
theorem toRat?_lots {lot : Int} (short : Short (native * lot)) :
    (ofInt native * ofInt lot).toRat? = some ((native : ℚ) * lot) := by
  rw [toRat?_mul_eq (toRat?_ofInt native) (toRat?_ofInt lot), short.nearest_eq]

theorem toRat?_price (nonzero : market.baseLotSize ≠ 0)
    (limited : |market.baseDecimals - market.quoteDecimals| ≤ maxExponent)
    (short : Short (native * market.quoteLotSize)) :
    (market.price native).toRat? = some (nearest (native * market.quoteLotSize *
      10 ^ (market.baseDecimals - market.quoteDecimals) / market.baseLotSize)) := by
  have shifted := toRat?_mul_eq (toRat?_lots short) (toRat?_powerOfTen limited)
  rw [(short.mul_zpow _).nearest_eq] at shifted
  exact toRat?_div_eq shifted (toRat?_ofInt market.baseLotSize) (by exact_mod_cast nonzero)

theorem toRat?_quantity (limited : |market.baseDecimals| ≤ maxExponent)
    (short : Short (native * market.baseLotSize)) :
    (market.quantity native).toRat? =
      some ((native : ℚ) * market.baseLotSize / 10 ^ market.baseDecimals) := by
  have moved := short.mul_zpow (-market.baseDecimals)
  rw [zpow_neg, ← div_eq_mul_inv] at moved
  have made := toRat?_div_eq (toRat?_lots short) (toRat?_powerOfTen limited) (by positivity)
  rw [moved.nearest_eq] at made
  exact made

/-- A price is the exact ratio rounded once to 80 significant digits, a half to the even neighbour,
and a quantity is not rounded at all, whenever the number of native units has no more than 80
significant digits and the decimals leave room for the digits of the native number and the lots.
Numbers of 64 bits always do so: a product of two never has more than 80 digits, and they leave
decimals of one byte all the room. -/
theorem scaling_rounds_once (nonzero : market.baseLotSize ≠ 0) :
    (∀ native : Int,
      Fits (market.baseDecimals - market.quoteDecimals)
        [native, market.quoteLotSize, market.baseLotSize] →
      Short (native * market.quoteLotSize) →
      (market.price native).toRat? = some (nearest (native * market.quoteLotSize *
        10 ^ (market.baseDecimals - market.quoteDecimals) / market.baseLotSize))) ∧
    (∀ native : Int,
      Fits market.baseDecimals [native, market.baseLotSize] →
      Short (native * market.baseLotSize) →
      (market.quantity native).toRat? =
        some ((native : ℚ) * market.baseLotSize / 10 ^ market.baseDecimals)) ∧
    (∀ native lot : UInt64, Short ((native.toNat : ℚ) * lot.toNat)) ∧
    ∀ (shift : Int) (wholes : List Int), |shift| ≤ 255 → wholes.length ≤ 3 →
      (∀ whole ∈ wholes, whole.natAbs < 2 ^ 64) → Fits shift wholes :=
  ⟨fun _ fits short => toRat?_price nonzero fits.limited short,
    fun _ fits short => toRat?_quantity fits.limited short, short_mul_toNat,
    fun _ _ => fits_of_words⟩

/-- Halving a quote lot of 80 digits that is odd leaves a digit too many. -/
def halvedLots : Market := ⟨9, 6, 2, 3 * 10 ^ 79 + 3⟩

/-- The half that is left over goes to the even neighbour, and the negative quantity is exact. -/
theorem scaling_rounds_once_halvedLots :
    halvedLots.baseLotSize ≠ 0 ∧
      halvedLots.price 1 = .finite false (15 * 10 ^ 78 + 2) 3 ∧
      (halvedLots.price 1).toRat? =
        some (nearest ((1 : Int) * halvedLots.quoteLotSize * 10 ^ ((9 : Int) - 6) / (2 : Int))) ∧
      (halvedLots.quantity (-3)).toRat? = some ((-3 : Int) * (2 : Int) / 10 ^ (9 : Int) : ℚ) ∧
      Short (((18446744073709551615 : UInt64).toNat : ℚ) * (18446744073709551615 : UInt64).toNat) := by
  have nonzero : halvedLots.baseLotSize ≠ 0 := by decide
  obtain ⟨prices, quantities, words, _⟩ := scaling_rounds_once nonzero
  have fits_price : Fits 3 [1, halvedLots.quoteLotSize, halvedLots.baseLotSize] := by
    unfold Fits
    decide +kernel
  have fits_quantity : Fits 9 [-3, halvedLots.baseLotSize] := by
    unfold Fits
    decide +kernel
  have short_price : Short (((1 : Int) : ℚ) * halvedLots.quoteLotSize) :=
    ⟨3 * 10 ^ 79 + 3, 0, by decide +kernel, by norm_num [halvedLots]⟩
  have short_quantity : Short (((-3 : Int) : ℚ) * halvedLots.baseLotSize) :=
    ⟨-6, 0, by decide +kernel, by norm_num [halvedLots]⟩
  exact ⟨nonzero, by decide +kernel, prices 1 fits_price short_price,
    quantities (-3) fits_quantity short_quantity, words _ _⟩

/-- One decimal more than an exponent can be. -/
def farDecimals : Market := ⟨9000000000000001, 0, 1, 1⟩

/-- Beyond the limits the price of one native unit is infinite and the quantity zero, although the
exact ones are neither, and although a single digit is all there is to round. -/
theorem scaling_far :
    farDecimals.baseLotSize ≠ 0 ∧ Short ((1 : Int) * farDecimals.quoteLotSize) ∧
      Short ((1 : Int) * farDecimals.baseLotSize) ∧
      farDecimals.price 1 = .infinite false ∧ farDecimals.quantity 1 = .finite false 0 0 ∧
      (farDecimals.price 1).toRat? ≠ some (nearest ((1 : Int) * farDecimals.quoteLotSize *
        10 ^ (farDecimals.baseDecimals - farDecimals.quoteDecimals) / farDecimals.baseLotSize)) ∧
      (farDecimals.quantity 1).toRat? ≠
        some (((1 : Int) : ℚ) * farDecimals.baseLotSize / 10 ^ farDecimals.baseDecimals) := by
  have price : farDecimals.price 1 = .infinite false := by decide +kernel
  have quantity : farDecimals.quantity 1 = .finite false 0 0 := by decide +kernel
  have short : Short (((1 : Int) : ℚ) * (1 : Int)) := ⟨1, 0, by decide +kernel, by norm_num⟩
  have lot_pos : (0 : ℚ) < farDecimals.baseLotSize := by norm_num [farDecimals]
  refine ⟨by decide, short, short, price, quantity, ?_, ?_⟩
  · rw [price]
    exact nofun
  · rw [quantity]
    intro same
    have exact_pos : (0 : ℚ) <
        ((1 : Int) : ℚ) * farDecimals.baseLotSize / 10 ^ farDecimals.baseDecimals := by
      positivity
    rw [← Option.some.inj same] at exact_pos
    simp [signed] at exact_pos

end Market
end SlabBook

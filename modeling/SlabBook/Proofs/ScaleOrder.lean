import Mathlib.Data.Sign.Basic
import SlabBook.Market
import SlabBook.Proofs.Amount

/-!
# Scaling keeps the order

A scaled price or quantity is the exact one up to the roundings of the way there, three at most.  Even
the two greatest neighbours of 64 bits are further apart than three roundings to 80 digits can move
them, so that scaling reorders nothing and merges nothing.

* `Decimal.Scaled.lt` — the comparison of two scaled numbers;
* `MarketDescription.scaling_strictMono` — prices and quantities of every market that is accepted.
-/

namespace SlabBook

namespace Decimal

/-- The number is a multiple of the unit, up to a factor that three roundings can make. -/
def Scaled (unit : ℚ) (native : Int) (number : Decimal) : Prop :=
  ∃ factor, |factor - 1| ≤ 7 * slack ∧ number.toRat? = some (native * unit * factor)

variable {unit : ℚ} {native first second : Int} {x y : Decimal}

theorem slack_lt : slack < 1 / 2 ^ 70 := by
  norm_num [slack, precision]

/-- Two factors close to one make one that is less close. -/
theorem abs_mul_sub_one_le {factor again bound : ℚ} (close : |factor - 1| ≤ bound)
    (close_too : |again - 1| ≤ slack) : |factor * again - 1| ≤ bound + slack * (bound + 1) := by
  have split : factor * again - 1 = (factor - 1) * (again - 1) + (factor - 1) + (again - 1) := by
    ring
  have product : |(factor - 1) * (again - 1)| ≤ bound * slack := by
    rw [abs_mul]
    gcongr
    exact (abs_nonneg _).trans close
  rw [split]
  calc _ ≤ |(factor - 1) * (again - 1)| + |factor - 1| + |again - 1| := abs_add_three _ _ _
    _ ≤ bound * slack + bound + slack := by gcongr
    _ = bound + slack * (bound + 1) := by ring

theorem abs_mul_sub_one_le_two {factor again : ℚ} (close : |factor - 1| ≤ slack)
    (close_too : |again - 1| ≤ slack) : |factor * again - 1| ≤ 3 * slack := by
  have nonneg := slack_nonneg
  have small := slack_lt
  refine (abs_mul_sub_one_le close close_too).trans ?_
  nlinarith

theorem abs_mul_sub_one_le_three {factor again last : ℚ} (close : |factor - 1| ≤ slack)
    (close_too : |again - 1| ≤ slack) (close_last : |last - 1| ≤ slack) :
    |factor * again * last - 1| ≤ 7 * slack := by
  have nonneg := slack_nonneg
  have small := slack_lt
  refine (abs_mul_sub_one_le (abs_mul_sub_one_le_two close close_too) close_last).trans ?_
  nlinarith

/-! ## Comparing scaled numbers -/

/-- Neighbours of 64 bits stay apart, whatever factors three roundings make. -/
theorem mul_lt_mul_of_close {lesser greater lower upper : ℚ} (nonneg : 0 ≤ lesser)
    (bounded : lesser ≤ 2 ^ 64) (apart : lesser + 1 ≤ greater)
    (lower_close : |lower - 1| ≤ 7 * slack) (upper_close : |upper - 1| ≤ 7 * slack) :
    lesser * upper < greater * lower := by
  have slack_nonneg := slack_nonneg
  have small := slack_lt
  have upper_le : upper ≤ 1 + 7 * slack := by linarith [(abs_le.1 upper_close).2]
  have lower_ge : 1 - 7 * slack ≤ lower := by linarith [(abs_le.1 lower_close).1]
  have moved : lesser * (14 * slack) ≤ 2 ^ 64 * (14 * slack) := by gcongr
  calc lesser * upper ≤ lesser * (1 + 7 * slack) := by gcongr
    _ < (lesser + 1) * (1 - 7 * slack) := by linarith
    _ ≤ (lesser + 1) * lower := by gcongr
    _ ≤ greater * lower := by gcongr; linarith

/-- The exact number has the sign of the scaled one. -/
theorem Scaled.sign (unit_pos : 0 < unit) (scaled : Scaled unit native x) :
    ∃ amount, x.toRat? = some amount ∧ SignType.sign amount = SignType.sign (native : ℚ) := by
  obtain ⟨factor, close, denotes⟩ := scaled
  have small := slack_lt
  have factor_pos : 0 < factor := by linarith [(abs_le.1 close).1]
  refine ⟨_, denotes, ?_⟩
  rw [sign_mul, sign_mul, sign_pos unit_pos, sign_pos factor_pos, mul_one, mul_one]

/-- Scaling keeps the order of any two numbers of 64 bits, whatever their signs. -/
theorem Scaled.lt (unit_pos : 0 < unit) (scaled : Scaled unit first x)
    (scaled_too : Scaled unit second y) (less : first < second) (lower : -2 ^ 64 ≤ first)
    (upper : second ≤ 2 ^ 64) :
    ∃ amount amount_too, x.toRat? = some amount ∧ y.toRat? = some amount_too ∧
      amount < amount_too := by
  obtain ⟨factor, close, denotes⟩ := scaled
  obtain ⟨again, close_too, denotes_too⟩ := scaled_too
  have small := slack_lt
  have factor_pos : 0 < factor := by linarith [(abs_le.1 close).1]
  have again_pos : 0 < again := by linarith [(abs_le.1 close_too).1]
  have less_rat : (first : ℚ) + 1 ≤ second := by exact_mod_cast less
  have lower_rat : -2 ^ 64 ≤ (first : ℚ) := by exact_mod_cast lower
  have upper_rat : (second : ℚ) ≤ 2 ^ 64 := by exact_mod_cast upper
  refine ⟨_, _, denotes, denotes_too, ?_⟩
  rw [mul_right_comm, mul_right_comm (second : ℚ)]
  refine mul_lt_mul_of_pos_right ?_ unit_pos
  rcases le_or_gt 0 (first : ℚ) with positive | negative
  · exact mul_lt_mul_of_close positive (by linarith) less_rat close_too close
  rcases le_or_gt (second : ℚ) 0 with below | above
  · -- both are negative, and the magnitudes compare the other way round
    have mirrored := mul_lt_mul_of_close (neg_nonneg.2 below) (by linarith)
      (by linarith : -(second : ℚ) + 1 ≤ -first) close close_too
    linarith
  · exact (mul_neg_of_neg_of_pos negative factor_pos).trans (mul_pos above again_pos)

end Decimal

namespace Market

open Decimal

/-- The lots are positive and the decimals between zero and 255. -/
structure Sound (market : Market) : Prop where
  baseDecimals : 0 ≤ market.baseDecimals ∧ market.baseDecimals ≤ 255
  quoteDecimals : 0 ≤ market.quoteDecimals ∧ market.quoteDecimals ≤ 255
  baseLotSize : 0 < market.baseLotSize
  quoteLotSize : 0 < market.quoteLotSize

namespace Sound

variable {market : Market}

/-- Decimals of one byte are far from the limits of a power of ten. -/
theorem unit_limited (sound : market.Sound) : |market.baseDecimals| ≤ maxExponent := by
  have base := sound.baseDecimals
  unfold maxExponent
  rw [abs_le]
  constructor <;> omega

theorem shift_limited (sound : market.Sound) :
    |market.baseDecimals - market.quoteDecimals| ≤ maxExponent := by
  have base := sound.baseDecimals
  have quote := sound.quoteDecimals
  unfold maxExponent
  rw [abs_le]
  constructor <;> omega

/-- A price is scaled with three roundings. -/
theorem price_scaled (sound : market.Sound) (native : Int) :
    Scaled (market.quoteLotSize * 10 ^ (market.baseDecimals - market.quoteDecimals) /
      market.baseLotSize) native (market.price native) := by
  obtain ⟨factor, close, lots⟩ :=
    toRat?_mul (toRat?_ofInt native) (toRat?_ofInt market.quoteLotSize)
  obtain ⟨again, close_too, shifted⟩ :=
    toRat?_mul lots (toRat?_powerOfTen sound.shift_limited)
  obtain ⟨last, close_last, made⟩ :=
    toRat?_div shifted (toRat?_ofInt market.baseLotSize) (by exact_mod_cast sound.baseLotSize.ne')
  refine ⟨factor * again * last, abs_mul_sub_one_le_three close close_too close_last, ?_⟩
  rw [price, made]
  congr 1
  ring

/-- A quantity is scaled with two roundings. -/
theorem quantity_scaled (sound : market.Sound) (native : Int) :
    Scaled (market.baseLotSize / 10 ^ market.baseDecimals) native (market.quantity native) := by
  obtain ⟨factor, close, lots⟩ :=
    toRat?_mul (toRat?_ofInt native) (toRat?_ofInt market.baseLotSize)
  obtain ⟨again, close_too, made⟩ :=
    toRat?_div lots (toRat?_powerOfTen sound.unit_limited) (by positivity)
  have nonneg := slack_nonneg
  refine ⟨factor * again, (abs_mul_sub_one_le_two close close_too).trans (by linarith), ?_⟩
  rw [quantity, made]
  congr 1
  ring

end Sound
end Market

namespace MarketDescription

open Decimal

theorem byteDecimals?_eq_some {decimals : Option Int} {value : Int}
    (success : byteDecimals? decimals = some value) : 0 ≤ value ∧ value ≤ 255 :=
  of_decide_eq_true (Option.filter_eq_some_iff.1 success).2

/-- A market that is accepted is sound. -/
theorem sound_of_check {given : MarketDescription} {market : Market}
    (accepted : given.check = .ok market) : market.Sound := by
  unfold check at accepted
  split at accepted
  · cases accepted
  next base_pos =>
    split at accepted
    · cases accepted
    next quote_pos =>
      split at accepted
      · cases accepted
      · cases accepted
      next base quote base_eq quote_eq =>
        cases accepted
        exact {
          baseDecimals := byteDecimals?_eq_some base_eq
          quoteDecimals := byteDecimals?_eq_some quote_eq
          baseLotSize := Int.not_le.1 base_pos
          quoteLotSize := Int.not_le.1 quote_pos }

/-- In a market that is accepted, greater native prices of 64 bits have greater prices and greater
native quantities of 64 signed bits greater quantities.  Both are finite and have the sign of the
native number, so that they are zero only for zero. -/
theorem scaling_strictMono {given : MarketDescription} {market : Market}
    (accepted : given.check = .ok market) :
    (∀ first second : UInt64, first < second → ∃ amount amount_too,
      (market.price first.toNat).toRat? = some amount ∧
        (market.price second.toNat).toRat? = some amount_too ∧ amount < amount_too) ∧
    (∀ first second : Int64, first < second → ∃ amount amount_too,
      (market.quantity first.toInt).toRat? = some amount ∧
        (market.quantity second.toInt).toRat? = some amount_too ∧ amount < amount_too) ∧
    (∀ native : UInt64, ∃ amount, (market.price native.toNat).toRat? = some amount ∧
      SignType.sign amount = SignType.sign (native.toNat : ℚ)) ∧
    ∀ native : Int64, ∃ amount, (market.quantity native.toInt).toRat? = some amount ∧
      SignType.sign amount = SignType.sign (native.toInt : ℚ) := by
  have sound := sound_of_check accepted
  have base_rat : (0 : ℚ) < market.baseLotSize := by exact_mod_cast sound.baseLotSize
  have quote_rat : (0 : ℚ) < market.quoteLotSize := by exact_mod_cast sound.quoteLotSize
  have price_pos : (0 : ℚ) < market.quoteLotSize *
      10 ^ (market.baseDecimals - market.quoteDecimals) / market.baseLotSize := by positivity
  have quantity_pos : (0 : ℚ) < market.baseLotSize / 10 ^ market.baseDecimals := by positivity
  have prices := sound.price_scaled
  have quantities := sound.quantity_scaled
  refine ⟨?_, ?_, ?_, ?_⟩
  · intro first second less
    have small := second.toNat_lt
    have natural : first.toNat < second.toNat := less
    exact (prices _).lt price_pos (prices _) (by omega) (by omega) (by omega)
  · intro first second less
    have low := first.le_toInt
    have high := second.toInt_lt
    exact (quantities _).lt quantity_pos (quantities _)
      (Int64.lt_iff_toInt_lt.1 less) (by omega) (by omega)
  · exact fun native => (prices native.toNat).sign price_pos
  · exact fun native => (quantities native.toInt).sign quantity_pos

/-- A base lot of more digits than are kept, and no quote unit that is not tiny. -/
def oddLots : MarketDescription := ⟨some 9, some 255, 10 ^ 90 - 1, 3⟩

def oddMarket : Market := ⟨9, 255, 10 ^ 90 - 1, 3⟩

/-- The two greatest native prices, and two quantities around zero. -/
theorem scaling_strictMono_oddLots :
    oddLots.check = .ok oddMarket ∧
      (∃ amount amount_too, (oddMarket.price 18446744073709551614).toRat? = some amount ∧
        (oddMarket.price 18446744073709551615).toRat? = some amount_too ∧ amount < amount_too) ∧
      (∃ amount amount_too, (oddMarket.quantity (-1)).toRat? = some amount ∧
        (oddMarket.quantity 0).toRat? = some amount_too ∧ amount < amount_too) ∧
      ∃ amount, (oddMarket.quantity (-1)).toRat? = some amount ∧ SignType.sign amount = -1 := by
  have accepted : oddLots.check = .ok oddMarket := by decide
  have last_but_one : ((18446744073709551614 : UInt64).toNat : Int) = 18446744073709551614 := by
    decide
  have last : ((18446744073709551615 : UInt64).toNat : Int) = 18446744073709551615 := by decide
  have minus_one : (-1 : Int64).toInt = -1 := by decide
  have zero : (0 : Int64).toInt = 0 := by decide
  obtain ⟨prices, quantities, _, signs⟩ := scaling_strictMono accepted
  have price := prices 18446744073709551614 18446744073709551615 (by decide)
  have quantity := quantities (-1) 0 (by decide)
  have sign := signs (-1)
  rw [last_but_one, last] at price
  rw [minus_one, zero] at quantity
  rw [minus_one] at sign
  exact ⟨accepted, price, quantity, sign⟩

end MarketDescription
end SlabBook

import SlabBook.Book.Order
import SlabBook.Config.Environment
import SlabBook.Proofs.Layout
import SlabBook.Proofs.ScaleOrder

/-!
# What an accepted configuration promises

The environment is checked variable by variable, and the market and the capacity once more where
they are used.  What the first check accepts passes the later ones, and no account can then bring
about an order without a finite price: no divisor is zero, and no number on the way gets long.

* `Range.check_eq_ok_iff` — the whole numbers that a range accepts;
* `Config.ofEnvironment_eq_ok_iff` — the variables of an accepted configuration;
* `Market.Sound.priceStages_within`, `Market.Sound.quantityStages_within` — the numbers on the way;
* `Config.accepted_finite` — the later checks, and the orders of every account.
-/

namespace SlabBook

/-! ## Numbers in a range -/

namespace Binary64

variable {x : Binary64} {value : Int}

/-- A whole number in units of its last binary digit. -/
theorem scaled_of_whole? {negative : Bool} {m : Nat} {e : Int}
    (whole : (finite negative m e).whole? = some value) :
    (if negative then -((m * Nat.pow 2 e.toNat : Nat) : Int) else (m * Nat.pow 2 e.toNat : Nat)) =
      value * (Nat.pow 2 (-e).toNat : Nat) := by
  simp only [whole?] at whole
  split at whole
  next divides =>
    have exact_quotient := Nat.div_mul_cancel (Nat.dvd_of_mod_eq_zero divides)
    generalize m * Nat.pow 2 e.toNat = scaled at exact_quotient whole ⊢
    generalize Nat.pow 2 (-e).toNat = unit at exact_quotient whole ⊢
    obtain rfl := Option.some.inj whole
    cases negative with
    | false =>
      simp only [Bool.false_eq_true, if_false]
      exact_mod_cast exact_quotient.symm
    | true =>
      simp only [if_true]
      rw [Int.neg_mul, neg_inj]
      exact_mod_cast exact_quotient.symm
  next => cases whole

/-- A whole number is less than a bound as a number of this kind if it is as a whole number. -/
theorem lt_iff_of_whole? (whole : x.whole? = some value) (bound : Int) :
    x.lt bound = true ↔ value < bound := by
  cases x with
  | nan => cases whole
  | infinite negative => cases whole
  | finite negative m e =>
    have unit_pos : (0 : Int) < (Nat.pow 2 (-e).toNat : Nat) := by
      exact_mod_cast Nat.pow_pos (by decide : 0 < 2)
    rw [lt, scaled_of_whole? whole, decide_eq_true_iff]
    exact Int.mul_lt_mul_right unit_pos

theorem gt_iff_of_whole? (whole : x.whole? = some value) (bound : Int) :
    x.gt bound = true ↔ bound < value := by
  cases x with
  | nan => cases whole
  | infinite negative => cases whole
  | finite negative m e =>
    have unit_pos : (0 : Int) < (Nat.pow 2 (-e).toNat : Nat) := by
      exact_mod_cast Nat.pow_pos (by decide : 0 < 2)
    rw [gt, scaled_of_whole? whole, decide_eq_true_iff]
    exact Int.mul_lt_mul_right unit_pos

end Binary64

/-- A range accepts the whole numbers between its bounds. -/
theorem Range.check_eq_ok_iff {range : Range} {x : Binary64} {value : Int} :
    range.check x = .ok value ↔
      x.whole? = some value ∧ range.least ≤ value ∧ value ≤ range.greatest := by
  unfold check
  cases whole : x.whole? with
  | none => simp
  | some found =>
    have number : x ≠ .nan := by
      rintro rfl
      cases whole
    have issues_nil : range.issues x = [] ↔ range.least ≤ found ∧ found ≤ range.greatest := by
      simp only [issues, if_neg number, whole, Option.isNone_some, Bool.false_eq_true, if_false,
        List.nil_append, List.append_eq_nil_iff, ite_eq_right_iff, List.cons_ne_nil, imp_false,
        Binary64.lt_iff_of_whole? whole, Binary64.gt_iff_of_whole? whole, not_lt]
    rw [Option.some_inj]
    split
    next accepted found_eq nil =>
      obtain rfl := Option.some.inj found_eq
      rw [Except.ok.injEq]
      constructor
      · rintro rfl
        exact ⟨rfl, issues_nil.1 nil⟩
      · exact fun inside => inside.1
    next refused =>
      refine iff_of_false (by simp) ?_
      rintro ⟨rfl, inside⟩
      exact refused found rfl (issues_nil.2 inside)

/-! ## Variables -/

namespace Environment

variable {env : Environment} {name : String} {range : Range} {default : Option Int} {value : Int}

/-- A variable that is accepted lies in its range, as does its default. -/
theorem bounds_of_whole
    (usual : ∀ given ∈ default, range.least ≤ given ∧ given ≤ range.greatest)
    (accepted : env.whole name range default = .ok value) :
    range.least ≤ value ∧ value ≤ range.greatest := by
  unfold whole at accepted
  split at accepted
  next given _ =>
    cases accepted
    exact usual value rfl
  next => cases accepted
  next _ text _ =>
    cases checked : range.check (Literal.number text) with
    | error issues =>
      rw [checked] at accepted
      cases accepted
    | ok found =>
      rw [checked] at accepted
      cases accepted
      exact (Range.check_eq_ok_iff.1 checked).2

theorem pos_of_positive (accepted : env.positive name = .ok value) : 0 < value := by
  unfold positive at accepted
  split at accepted
  next => cases accepted
  next text _ =>
    split at accepted
    next => cases accepted
    next found _ =>
      split at accepted
      next above =>
        cases accepted
        exact above
      next => cases accepted

end Environment

/-! ## Stages of scaling -/

namespace Decimal

/-- The number is finite, and its amount no greater than the bound. -/
def Within (bound : ℚ) (x : Decimal) : Prop :=
  ∃ amount, x.toRat? = some amount ∧ |amount| ≤ bound

variable {x y : Decimal} {bound bound_too divisor : ℚ}

theorem Within.mono (within : x.Within bound) (le : bound ≤ bound_too) : x.Within bound_too := by
  obtain ⟨amount, denotes, small⟩ := within
  exact ⟨amount, denotes, small.trans le⟩

theorem within_ofInt (value : Int) : (ofInt value).Within |(value : ℚ)| :=
  ⟨_, toRat?_ofInt value, le_rfl⟩

theorem within_powerOfTen {exponent : Int} (limited : |exponent| ≤ maxExponent) :
    (powerOfTen exponent).Within (10 ^ exponent) :=
  ⟨_, toRat?_powerOfTen limited, (abs_of_nonneg (by positivity)).le⟩

/-- One rounding does not double an amount. -/
theorem abs_mul_le_of_close {amount factor : ℚ} (small : |amount| ≤ bound)
    (close : |factor - 1| ≤ slack) : |amount * factor| ≤ 2 * bound := by
  have tiny := slack_lt
  have nonneg : 0 ≤ bound := (abs_nonneg amount).trans small
  have factor_le : |factor| ≤ 2 := by
    have apart := abs_le.1 close
    rw [abs_le]
    constructor <;> linarith
  rw [abs_mul]
  calc |amount| * |factor| ≤ bound * 2 := by gcongr
    _ = 2 * bound := mul_comm _ _

theorem Within.mul (within : x.Within bound) (within_too : y.Within bound_too) :
    (x * y).Within (2 * (bound * bound_too)) := by
  obtain ⟨first, denotes, small⟩ := within
  obtain ⟨second, denotes_too, small_too⟩ := within_too
  obtain ⟨factor, close, made⟩ := toRat?_mul denotes denotes_too
  refine ⟨_, made, abs_mul_le_of_close ?_ close⟩
  rw [abs_mul]
  exact mul_le_mul small small_too (abs_nonneg _) ((abs_nonneg _).trans small)

/-- A division by one or more gives no more than it takes, up to the rounding. -/
theorem Within.div (within : x.Within bound) (denotes : y.toRat? = some divisor)
    (proper : 1 ≤ divisor) : (x / y).Within (2 * bound) := by
  obtain ⟨first, denotes_too, small⟩ := within
  have positive : 0 < divisor := by linarith
  obtain ⟨factor, close, made⟩ := toRat?_div denotes_too denotes positive.ne'
  refine ⟨_, made, abs_mul_le_of_close ?_ close⟩
  rw [abs_div, abs_of_pos positive]
  exact (div_le_self (abs_nonneg _) proper).trans small

end Decimal

namespace Market

open Decimal

/-- All numbers on the way to a price: the operands, and what each operation makes of them. -/
def priceStages (market : Market) (native : Int) : List Decimal :=
  let lots := ofInt native * ofInt market.quoteLotSize
  let shift := powerOfTen (market.baseDecimals - market.quoteDecimals)
  [ofInt native, ofInt market.quoteLotSize, lots, shift, lots * shift, ofInt market.baseLotSize,
    lots * shift / ofInt market.baseLotSize]

/-- All numbers on the way to a quantity. -/
def quantityStages (market : Market) (native : Int) : List Decimal :=
  let lots := ofInt native * ofInt market.baseLotSize
  let unit := powerOfTen market.baseDecimals
  [ofInt native, ofInt market.baseLotSize, lots, unit, lots / unit]

theorem getLast?_priceStages (market : Market) (native : Int) :
    (market.priceStages native).getLast? = some (market.price native) := rfl

theorem getLast?_quantityStages (market : Market) (native : Int) :
    (market.quantityStages native).getLast? = some (market.quantity native) := rfl

/-- The lots of both sides, moved by the greatest power of ten. -/
def reach (market : Market) : ℚ := market.baseLotSize * market.quoteLotSize * 10 ^ 255

/-- No number on the way to a price or a quantity is greater.  It has hardly more digits than the
native number and the lots together. -/
def ceiling (market : Market) (native : Int) : ℚ := 8 * ((|(native : ℚ)| + 1) * market.reach)

namespace Sound

variable {market : Market}

/-- The market passes the check that every book makes anew. -/
theorem check_eq (sound : market.Sound) : market.check = .ok market := by
  have base : MarketDescription.byteDecimals? (some market.baseDecimals) =
      some market.baseDecimals := by
    simp [MarketDescription.byteDecimals?, sound.baseDecimals]
  have quote : MarketDescription.byteDecimals? (some market.quoteDecimals) =
      some market.quoteDecimals := by
    simp [MarketDescription.byteDecimals?, sound.quoteDecimals]
  simp only [check, describe, MarketDescription.check, if_neg (Int.not_le.2 sound.baseLotSize),
    if_neg (Int.not_le.2 sound.quoteLotSize), base, quote]

theorem one_le_baseLotSize (sound : market.Sound) : (1 : ℚ) ≤ market.baseLotSize := by
  exact_mod_cast sound.baseLotSize

theorem one_le_quoteLotSize (sound : market.Sound) : (1 : ℚ) ≤ market.quoteLotSize := by
  exact_mod_cast sound.quoteLotSize

theorem baseLotSize_mul_le (sound : market.Sound) {factor : ℚ} (le : factor ≤ 10 ^ 255) :
    market.baseLotSize * factor ≤ market.reach := by
  have base := sound.one_le_baseLotSize
  calc (market.baseLotSize : ℚ) * factor ≤ market.baseLotSize * 10 ^ 255 := by gcongr
    _ ≤ market.baseLotSize * market.quoteLotSize * 10 ^ 255 := by
      gcongr
      exact le_mul_of_one_le_right (by linarith) sound.one_le_quoteLotSize

theorem quoteLotSize_mul_le (sound : market.Sound) {factor : ℚ} (le : factor ≤ 10 ^ 255) :
    market.quoteLotSize * factor ≤ market.reach := by
  have quote := sound.one_le_quoteLotSize
  calc (market.quoteLotSize : ℚ) * factor ≤ market.quoteLotSize * 10 ^ 255 := by gcongr
    _ ≤ market.baseLotSize * market.quoteLotSize * 10 ^ 255 := by
      gcongr
      exact le_mul_of_one_le_left (by linarith) sound.one_le_baseLotSize

theorem le_reach (sound : market.Sound) {factor : ℚ} (nonneg : 0 ≤ factor)
    (le : factor ≤ 10 ^ 255) : factor ≤ market.reach :=
  (le_mul_of_one_le_left nonneg sound.one_le_quoteLotSize).trans (sound.quoteLotSize_mul_le le)

theorem shift_le (sound : market.Sound) :
    (10 : ℚ) ^ (market.baseDecimals - market.quoteDecimals) ≤ 10 ^ 255 := by
  have base := sound.baseDecimals
  have quote := sound.quoteDecimals
  rw [← zpow_natCast]
  exact zpow_le_zpow_right₀ (by norm_num) (by push_cast; omega)

theorem unit_le (sound : market.Sound) : (10 : ℚ) ^ market.baseDecimals ≤ 10 ^ 255 := by
  rw [← zpow_natCast]
  exact zpow_le_zpow_right₀ (by norm_num) sound.baseDecimals.2

theorem reach_pos (sound : market.Sound) : 0 < market.reach :=
  one_pos.trans_le (sound.le_reach zero_le_one (one_le_pow₀ (by norm_num)))

/-- An operand within reach is below the ceiling. -/
theorem operand_within (sound : market.Sound) {x : Decimal} {bound : ℚ} (native : Int)
    (within : x.Within bound) (le : bound ≤ market.reach) : x.Within (market.ceiling native) := by
  refine within.mono (le.trans ?_)
  have positive := sound.reach_pos
  have many := mul_nonneg (abs_nonneg (native : ℚ)) positive.le
  rw [ceiling]
  linarith

/-- Up to eight times what the native number makes of an operand within reach. -/
theorem multiple_within (sound : market.Sound) {x : Decimal} {native : Int} {count factor : ℚ}
    (within : x.Within (count * (|(native : ℚ)| * factor))) (few : count ≤ 8) (nonneg : 0 ≤ factor)
    (le : factor ≤ market.reach) : x.Within (market.ceiling native) := by
  refine within.mono ?_
  have positive := sound.reach_pos
  have more : |(native : ℚ)| ≤ |(native : ℚ)| + 1 := by linarith
  rw [ceiling]
  gcongr

/-- Everything on the way to a price is finite and below the ceiling. -/
theorem priceStages_within (sound : market.Sound) (native : Int) :
    ∀ stage ∈ market.priceStages native, stage.Within (market.ceiling native) := by
  have base := sound.one_le_baseLotSize
  have quote := sound.one_le_quoteLotSize
  have one_le : (1 : ℚ) ≤ 10 ^ 255 := one_le_pow₀ (by norm_num)
  have shift_nonneg : (0 : ℚ) ≤ 10 ^ (market.baseDecimals - market.quoteDecimals) := by positivity
  have given := within_ofInt native
  have quote_within := within_ofInt market.quoteLotSize
  have base_within := within_ofInt market.baseLotSize
  rw [abs_of_pos (by linarith)] at quote_within base_within
  have lots := given.mul quote_within
  have shift := within_powerOfTen sound.shift_limited
  have shifted := lots.mul shift
  have made := shifted.div (toRat?_ofInt market.baseLotSize) base
  have quote_le := sound.quoteLotSize_mul_le one_le
  rw [mul_one] at quote_le
  have moved_le := sound.quoteLotSize_mul_le sound.shift_le
  simp only [priceStages, List.forall_mem_cons, List.not_mem_nil, false_imp_iff, implies_true,
    and_true]
  refine ⟨?_, ?_, ?_, ?_, ?_, ?_, ?_⟩
  · exact sound.multiple_within (given.mono (by linarith : _ ≤ 1 * (|(native : ℚ)| * 1)))
      (by norm_num) zero_le_one (sound.le_reach zero_le_one one_le)
  · exact sound.operand_within native quote_within quote_le
  · exact sound.multiple_within lots (by norm_num) (by linarith) quote_le
  · exact sound.operand_within native shift (sound.le_reach shift_nonneg sound.shift_le)
  · refine sound.multiple_within (shifted.mono (le_of_eq ?_)) (by norm_num : (4 : ℚ) ≤ 8)
      (by positivity) moved_le
    ring
  · refine sound.operand_within native base_within ?_
    have base_le := sound.baseLotSize_mul_le one_le
    rwa [mul_one] at base_le
  · refine sound.multiple_within (made.mono (le_of_eq ?_)) (by norm_num : (8 : ℚ) ≤ 8)
      (by positivity) moved_le
    ring

/-- Everything on the way to a quantity is finite and below the ceiling. -/
theorem quantityStages_within (sound : market.Sound) (native : Int) :
    ∀ stage ∈ market.quantityStages native, stage.Within (market.ceiling native) := by
  have base := sound.one_le_baseLotSize
  have one_le : (1 : ℚ) ≤ 10 ^ 255 := one_le_pow₀ (by norm_num)
  have unit_nonneg : (0 : ℚ) ≤ 10 ^ market.baseDecimals := by positivity
  have unit_proper : (1 : ℚ) ≤ 10 ^ market.baseDecimals :=
    one_le_zpow₀ (by norm_num) sound.baseDecimals.1
  have given := within_ofInt native
  have base_within := within_ofInt market.baseLotSize
  rw [abs_of_pos (by linarith)] at base_within
  have lots := given.mul base_within
  have unit := within_powerOfTen sound.unit_limited
  have made := lots.div (toRat?_powerOfTen sound.unit_limited) unit_proper
  have base_le := sound.baseLotSize_mul_le one_le
  rw [mul_one] at base_le
  simp only [quantityStages, List.forall_mem_cons, List.not_mem_nil, false_imp_iff, implies_true,
    and_true]
  refine ⟨?_, ?_, ?_, ?_, ?_⟩
  · exact sound.multiple_within (given.mono (by linarith : _ ≤ 1 * (|(native : ℚ)| * 1)))
      (by norm_num) zero_le_one (sound.le_reach zero_le_one one_le)
  · exact sound.operand_within native base_within base_le
  · exact sound.multiple_within lots (by norm_num) (by linarith) base_le
  · exact sound.operand_within native unit (sound.le_reach unit_nonneg sound.unit_le)
  · refine sound.multiple_within (made.mono (le_of_eq ?_)) (by norm_num : (4 : ℚ) ≤ 8)
      (by linarith) base_le
    ring

/-- A price is not negative. -/
theorem price_nonneg (sound : market.Sound) (native : Nat) :
    ∃ price, (market.price native).toRat? = some price ∧ 0 ≤ price := by
  have base : (0 : ℚ) < market.baseLotSize := by exact_mod_cast sound.baseLotSize
  have quote : (0 : ℚ) < market.quoteLotSize := by exact_mod_cast sound.quoteLotSize
  obtain ⟨price, denotes, sign⟩ :=
    (sound.price_scaled native).sign (by positivity)
  refine ⟨price, denotes, ?_⟩
  rw [← sign_nonneg_iff, sign, sign_nonneg_iff]
  exact_mod_cast Nat.zero_le native

end Sound
end Market

/-! ## Configurations -/

namespace Config

variable {env : Environment} {config : Config}

/-- A configuration is accepted if each of its variables is. -/
theorem ofEnvironment_eq_ok_iff :
    ofEnvironment env = .ok config ↔
      env.whole "PORT" ⟨1, 65535⟩ (some 8080) = .ok config.port ∧
      (env.get? "LOG_LEVEL").getD "info" = config.logLevel ∧
      env.get? "CORS_ORIGINS" = config.corsOrigins ∧
      env.url "SOLANA_RPC_URL" = .ok config.rpcUrl ∧
      env.url? "SOLANA_WS_URL" = .ok config.wsUrl ∧
      env.commitment "COMMITMENT" = .ok config.commitment ∧
      env.longText "BIDS" 32 = .ok config.bids ∧
      env.longText "ASKS" 32 = .ok config.asks ∧
      env.whole "BASE_DECIMALS" decimalsRange none = .ok config.baseDecimals ∧
      env.whole "QUOTE_DECIMALS" decimalsRange none = .ok config.quoteDecimals ∧
      env.positive "BASE_LOT_SIZE" = .ok config.baseLotSize ∧
      env.positive "QUOTE_LOT_SIZE" = .ok config.quoteLotSize ∧
      env.whole "BOOK_NODES" ⟨1, 65536⟩ (some 1024) = .ok config.bookNodes ∧
      env.whole "LIVENESS_SILENCE_SEC" ⟨1, 86400⟩ (some 60) = .ok config.livenessSilence ∧
      env.whole "BOOK_LOG_DEPTH" ⟨0, 100⟩ (some 5) = .ok config.bookLogDepth ∧
      env.whole "BOOK_LOG_EVERY_SEC" ⟨0, 3600⟩ (some 15) = .ok config.bookLogEvery := by
  simp only [ofEnvironment, Checked.apply_eq_ok_iff, Except.ok.injEq]
  constructor
  · -- the variables from the last one back to the first
    rintro ⟨_, _, ⟨_, _, ⟨_, _, ⟨_, _, ⟨_, _, ⟨_, _, ⟨_, _, ⟨_, _, ⟨_, _, ⟨_, _, ⟨_, _, ⟨_, _,
      ⟨_, _, ⟨_, _, ⟨_, _, ⟨_, _, rfl, port, rfl⟩, level, rfl⟩, cors, rfl⟩, rpc, rfl⟩, ws, rfl⟩,
      commitment, rfl⟩, bids, rfl⟩, asks, rfl⟩, base, rfl⟩, quote, rfl⟩, lot, rfl⟩, lot_too, rfl⟩,
      count, rfl⟩, silence, rfl⟩, depth, rfl⟩, every, rfl⟩
    exact ⟨port, level, cors, rpc, ws, commitment, bids, asks, base, quote, lot, lot_too, count,
      silence, depth, every⟩
  · rintro ⟨port, level, cors, rpc, ws, commitment, bids, asks, base, quote, lot, lot_too, count,
      silence, depth, every⟩
    exact ⟨_, _, ⟨_, _, ⟨_, _, ⟨_, _, ⟨_, _, ⟨_, _, ⟨_, _, ⟨_, _, ⟨_, _, ⟨_, _, ⟨_, _, ⟨_, _,
      ⟨_, _, ⟨_, _, ⟨_, _, ⟨_, _, rfl, port, rfl⟩, level, rfl⟩, cors, rfl⟩, rpc, rfl⟩, ws, rfl⟩,
      commitment, rfl⟩, bids, rfl⟩, asks, rfl⟩, base, rfl⟩, quote, rfl⟩, lot, rfl⟩, lot_too, rfl⟩,
      count, rfl⟩, silence, rfl⟩, depth, rfl⟩, every, rfl⟩

/-- The market of an accepted configuration is sound. -/
theorem market_sound (accepted : ofEnvironment env = .ok config) : config.market.Sound := by
  obtain ⟨_, _, _, _, _, _, _, _, base, quote, lot, lot_too, _⟩ :=
    ofEnvironment_eq_ok_iff.1 accepted
  exact {
    baseDecimals := Environment.bounds_of_whole (by simp) base
    quoteDecimals := Environment.bounds_of_whole (by simp) quote
    baseLotSize := Environment.pos_of_positive lot
    quoteLotSize := Environment.pos_of_positive lot_too }

/-- Its capacity is a number of slots. -/
theorem exists_slots (accepted : ofEnvironment env = .ok config) :
    ∃ slots, config.capacity.slots = .ok slots ∧ 1 ≤ slots ∧ slots ≤ 65536 := by
  obtain ⟨_, _, _, _, _, _, _, _, _, _, _, _, count, _⟩ := ofEnvironment_eq_ok_iff.1 accepted
  obtain ⟨least, greatest⟩ := Environment.bounds_of_whole (by simp) count
  simp only at least greatest
  refine ⟨config.bookNodes.toNat, ?_, by omega, by omega⟩
  rw [capacity, Capacity.slots, if_pos least]

/-- An accepted configuration passes the later checks of its market and its capacity.  The numbers
on the way to a price or a quantity are then finite, and the divisor is not zero.  So each order, in
any account of the right size and also before a damaged slot, has a finite price that is not
negative and a finite quantity. -/
theorem accepted_finite (accepted : ofEnvironment env = .ok config) :
    config.market.check = .ok config.market ∧
      config.market.baseLotSize ≠ 0 ∧
      (∀ native, ∀ stage ∈ config.market.priceStages native ++ config.market.quantityStages native,
        stage.Within (config.market.ceiling native)) ∧
      ∃ slots, config.capacity.slots = .ok slots ∧ 1 ≤ slots ∧ slots ≤ 65536 ∧
        ∀ account : Account, account.data.size = BookSide.size slots →
          ∃ side, BookSide.decode account config.market config.capacity = .ok side ∧
            ∀ order ∈ side.walk.orders side,
              (∃ price, order.price.toRat? = some price ∧ 0 ≤ price) ∧
                ∃ quantity, order.quantity.toRat? = some quantity := by
  have sound := market_sound accepted
  obtain ⟨slots, slots_eq, least, greatest⟩ := exists_slots accepted
  refine ⟨sound.check_eq, sound.baseLotSize.ne', ?_, slots, slots_eq, least, greatest, ?_⟩
  · intro native stage among
    rcases List.mem_append.1 among with of_price | of_quantity
    · exact sound.priceStages_within native stage of_price
    · exact sound.quantityStages_within native stage of_quantity
  · intro account size_eq
    obtain ⟨side, success⟩ := BookSide.exists_decode config.market slots_eq size_eq
    obtain ⟨_, _, _, _, _, _, _, market_eq⟩ := BookSide.decode_eq_ok_iff.1 success
    refine ⟨side, success, ?_⟩
    intro order yielded
    obtain ⟨found, _, rfl⟩ := List.mem_map.1 yielded
    have last := config.market.getLast?_quantityStages found.2.quantity.toInt
    obtain ⟨quantity, denotes, _⟩ :=
      sound.quantityStages_within _ _ (List.mem_of_getLast? last)
    rw [market_eq]
    exact ⟨sound.price_nonneg _, quantity, denotes⟩

/-- Numbers with blanks, in hexadecimal, with a sign and with an exponent, and one that is blank. -/
def oddlySpelled : Environment :=
  [("SOLANA_RPC_URL", "http://[::1]:8899"), ("BIDS", "11111111111111111111111111111111"),
    ("ASKS", "22222222222222222222222222222222"), ("BASE_DECIMALS", " 255"),
    ("QUOTE_DECIMALS", ""), ("BASE_LOT_SIZE", "0x7"), ("QUOTE_LOT_SIZE", " +3 "),
    ("BOOK_NODES", "1e0")]

def oddlySpelledConfig : Config where
  port := 8080
  logLevel := "info"
  corsOrigins := none
  rpcUrl := "http://[::1]:8899"
  wsUrl := none
  commitment := .processed
  bids := "11111111111111111111111111111111"
  asks := "22222222222222222222222222222222"
  baseDecimals := 255
  quoteDecimals := 0
  baseLotSize := 7
  quoteLotSize := 3
  bookNodes := 1
  livenessSilence := 60
  bookLogDepth := 5
  bookLogEvery := 15

theorem oddlySpelled_accepted : ofEnvironment oddlySpelled = .ok oddlySpelledConfig := by
  have accepted : (ofEnvironment oddlySpelled).toOption = some oddlySpelledConfig := by
    decide +kernel
  cases made : ofEnvironment oddlySpelled with
  | error issues =>
    rw [made] at accepted
    cases accepted
  | ok config =>
    rw [made] at accepted
    rw [Option.some.inj accepted]

theorem accepted_finite_oddlySpelled :
    ofEnvironment oddlySpelled = .ok oddlySpelledConfig ∧
      oddlySpelledConfig.market.check = .ok ⟨255, 0, 7, 3⟩ ∧
      ∃ slots, oddlySpelledConfig.capacity.slots = .ok slots ∧
        ∀ account : Account, account.data.size = BookSide.size slots →
          ∃ side, BookSide.decode account ⟨255, 0, 7, 3⟩ (.whole 1) = .ok side ∧
            ∀ order ∈ side.walk.orders side,
              (∃ price, order.price.toRat? = some price ∧ 0 ≤ price) ∧
                ∃ quantity, order.quantity.toRat? = some quantity := by
  obtain ⟨check_eq, _, _, slots, slots_eq, _, _, decoded⟩ := accepted_finite oddlySpelled_accepted
  exact ⟨oddlySpelled_accepted, check_eq, slots, slots_eq, decoded⟩

end Config
end SlabBook

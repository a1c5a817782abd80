import SlabBook.Book.Order
import SlabBook.Proofs.Numerals
import SlabBook.Proofs.ScaleOrder

/-!
# The written form of an order

An order is handed out as a record of texts.  In a market that is accepted nothing is lost: the
texts tell two leaves of one side apart, down to the types that have no name, and each number is read
back from its text.

* `OrderKey.toNat_injective`, `OrderType.ofCode_eq_iff`, `Market.quantity_injective` — the fields;
* `Order.record_lossless` — the record as a whole.
-/

namespace SlabBook

/-! ## Keys, types and quantities -/

namespace OrderKey

theorem toNat_div (key : OrderKey) : key.toNat / 2 ^ 64 = key.price.toNat := by
  have bound := key.sequence.toNat_lt
  simp only [toNat, UInt64.size]
  omega

theorem toNat_mod (key : OrderKey) : key.toNat % 2 ^ 64 = key.sequence.toNat := by
  have bound := key.sequence.toNat_lt
  simp only [toNat, UInt64.size]
  omega

/-- The id tells keys apart. -/
theorem toNat_injective : Function.Injective toNat := by
  rintro ⟨price, sequence⟩ ⟨price_too, sequence_too⟩ same
  have price_eq := congrArg (· / 2 ^ 64) same
  have sequence_eq := congrArg (· % 2 ^ 64) same
  simp only [toNat_div, toNat_mod] at price_eq sequence_eq
  rw [UInt64.toNat_inj.1 price_eq, UInt64.toNat_inj.1 sequence_eq]

end OrderKey

namespace OrderType

theorem toText_injective : Function.Injective toText := by
  intro first second same
  cases first <;> cases second <;> first | rfl | exact absurd same (by decide)

/-- Five codes have a type of their own, and the others none. -/
theorem code_cases (code : UInt8) :
    code ∈ ([0, 1, 2, 3, 4] : List UInt8) ∨ (4 < code ∧ ofCode code = .unknown) := by
  by_cases known : code ∈ ([0, 1, 2, 3, 4] : List UInt8)
  · exact Or.inl known
  · refine Or.inr ⟨?_, ?_⟩
    · simp only [List.mem_cons, List.not_mem_nil, or_false, not_or, ← UInt8.toNat_inj] at known
      rw [UInt8.lt_iff_toNat_lt]
      simp at known ⊢
      omega
    · simp only [List.mem_cons, List.not_mem_nil, or_false, not_or] at known
      obtain ⟨zero, one, two, three, four⟩ := known
      unfold ofCode
      split <;> first | rfl | contradiction

/-- Codes have one type if they are the same or both without a meaning. -/
theorem ofCode_eq_iff {first second : UInt8} :
    ofCode first = ofCode second ↔ first = second ∨ (4 < first ∧ 4 < second) := by
  have apart : ∀ known ∈ ([0, 1, 2, 3, 4] : List UInt8), ¬ 4 < known ∧ ofCode known ≠ .unknown := by
    decide +kernel
  have distinct : ∀ known ∈ ([0, 1, 2, 3, 4] : List UInt8),
      ∀ other ∈ ([0, 1, 2, 3, 4] : List UInt8), ofCode known = ofCode other → known = other := by
    decide +kernel
  constructor
  · intro same
    rcases code_cases first with known | ⟨above, unknown⟩ <;>
      rcases code_cases second with known_too | ⟨above_too, unknown_too⟩
    · exact Or.inl (distinct first known second known_too same)
    · exact absurd (same.trans unknown_too) (apart first known).2
    · exact absurd (same.symm.trans unknown) (apart second known_too).2
    · exact Or.inr ⟨above, above_too⟩
  · rintro (rfl | ⟨above, above_too⟩)
    · rfl
    · rcases code_cases first with known | ⟨_, unknown⟩
      · exact absurd above (apart first known).1
      rcases code_cases second with known_too | ⟨_, unknown_too⟩
      · exact absurd above_too (apart second known_too).1
      · rw [unknown, unknown_too]

end OrderType

namespace Market

open Decimal

variable {market : Market}

/-- The amount tells native quantities apart. -/
theorem quantity_injective (sound : market.Sound) {first second : Int64}
    (same : (market.quantity first.toInt).toRat? = (market.quantity second.toInt).toRat?) :
    first = second := by
  have base_rat : (0 : ℚ) < market.baseLotSize := by exact_mod_cast sound.baseLotSize
  have unit_pos : (0 : ℚ) < market.baseLotSize / 10 ^ market.baseDecimals := by positivity
  -- the lesser one of two has the lesser amount
  have apart : ∀ {lesser greater : Int64}, lesser.toInt < greater.toInt →
      (market.quantity lesser.toInt).toRat? ≠ (market.quantity greater.toInt).toRat? := by
    intro lesser greater less same
    have lower := lesser.le_toInt
    have upper := greater.toInt_lt
    obtain ⟨amount, amount_too, denotes, denotes_too, amount_lt⟩ :=
      (sound.quantity_scaled lesser.toInt).lt unit_pos (sound.quantity_scaled greater.toInt) less
        (by omega) (by omega)
    rw [denotes, denotes_too, Option.some.injEq] at same
    exact amount_lt.ne same
  rcases lt_trichotomy first.toInt second.toInt with less | equal | greater
  · exact absurd same (apart less)
  · exact Int64.toInt_inj.1 equal
  · exact absurd same.symm (apart greater)

end Market

/-! ## Records -/

namespace Order

variable {given : MarketDescription} {market : Market} {side : OrderSide} {first second : Leaf}

/-- Equal records come from equal leaves, as far as an order shows them. -/
theorem leaf_eq_of_record_eq (sound : market.Sound)
    (same : (ofLeaf market side first).record = (ofLeaf market side second).record) :
    first.key = second.key ∧ first.owner = second.owner ∧ first.quantity = second.quantity ∧
      first.clientOrderId = second.clientOrderId ∧ first.timestamp = second.timestamp ∧
      (first.orderType = second.orderType ∨ (4 < first.orderType ∧ 4 < second.orderType)) := by
  simp only [record, ofLeaf, OrderRecord.mk.injEq] at same
  obtain ⟨id, client, owner, -, -, quantity, type, -, time⟩ := same
  have amounts := congrArg Literal.amount? quantity
  rw [Literal.amount?_toText, Literal.amount?_toText] at amounts
  exact ⟨OrderKey.toNat_injective (Literal.toText_injective id), Address.toText_injective owner,
    Market.quantity_injective sound amounts,
    UInt64.toNat_inj.1 (Literal.toText_injective client),
    UInt64.toNat_inj.1 (Literal.toText_injective time),
    OrderType.ofCode_eq_iff.1 (OrderType.toText_injective type)⟩

/-- In a market that is accepted, the record of an order loses nothing of its leaf.  Leaves of one
side with equal records agree in all that an order shows, and their types can differ only if both
have no name.  The id and its low half are read back as numbers, and price and quantity as the exact
amounts that the market makes of the leaf, in whichever notation they are written. -/
theorem record_lossless (accepted : given.check = .ok market) (side : OrderSide) :
    (∀ first second : Leaf,
      (ofLeaf market side first).record = (ofLeaf market side second).record →
        first.key = second.key ∧ first.owner = second.owner ∧ first.quantity = second.quantity ∧
          first.clientOrderId = second.clientOrderId ∧ first.timestamp = second.timestamp ∧
          (first.orderType = second.orderType ∨ (4 < first.orderType ∧ 4 < second.orderType))) ∧
      ∀ leaf : Leaf,
        let written := (ofLeaf market side leaf).record
        Literal.digits? 10 written.id.toList = some leaf.key.toNat ∧
          Literal.digits? 10 written.sequence.toList = some (leaf.key.toNat % 2 ^ 64) ∧
          (∃ price, (market.price (leaf.key.toNat / 2 ^ 64 : Nat)).toRat? = some price ∧
            Literal.amount? written.price = some price) ∧
          ∃ quantity, (market.quantity leaf.quantity.toInt).toRat? = some quantity ∧
            Literal.amount? written.quantity = some quantity := by
  have sound := MarketDescription.sound_of_check accepted
  refine ⟨fun first second => leaf_eq_of_record_eq sound, fun leaf => ?_⟩
  obtain ⟨_, _, price⟩ := sound.price_scaled leaf.key.price.toNat
  obtain ⟨_, _, quantity⟩ := sound.quantity_scaled leaf.quantity.toInt
  simp only [OrderKey.toNat_div, OrderKey.toNat_mod]
  exact ⟨Literal.digits?_toText _, Literal.digits?_toText _,
    ⟨_, price, (Literal.amount?_toText _).trans price⟩,
    ⟨_, quantity, (Literal.amount?_toText _).trans quantity⟩⟩

/-- An ask of minus one lot at the least price, with a type that has no name. -/
def nameless : Leaf := ⟨0, 200, 0, 0, ⟨1, 5⟩, .fill 7, -1, 9, 0, 11⟩

/-- A market with 255 decimals writes both amounts with a power of ten. -/
theorem record_lossless_nameless :
    (⟨some 255, some 0, 7, 3⟩ : MarketDescription).check = .ok ⟨255, 0, 7, 3⟩ ∧
      (ofLeaf ⟨255, 0, 7, 3⟩ .sell nameless).record.quantity = "-7e-255" ∧
      Literal.digits? 10 (ofLeaf ⟨255, 0, 7, 3⟩ .sell nameless).record.id.toList =
        some 18446744073709551621 ∧
      (∃ quantity, (Market.quantity ⟨255, 0, 7, 3⟩ (-1)).toRat? = some quantity ∧
        Literal.amount? "-7e-255" = some quantity) ∧
      ∀ other : Leaf, (ofLeaf ⟨255, 0, 7, 3⟩ .sell nameless).record =
        (ofLeaf ⟨255, 0, 7, 3⟩ .sell other).record → ⟨1, 5⟩ = other.key ∧ -1 = other.quantity := by
  have accepted : (⟨some 255, some 0, 7, 3⟩ : MarketDescription).check = .ok ⟨255, 0, 7, 3⟩ := by
    rfl
  have written : (ofLeaf ⟨255, 0, 7, 3⟩ .sell nameless).record.quantity = "-7e-255" := by
    decide +kernel
  obtain ⟨apart, read⟩ := record_lossless accepted .sell
  obtain ⟨id, _, _, quantity⟩ := read nameless
  rw [written] at quantity
  refine ⟨accepted, written, id, quantity, fun other same => ?_⟩
  obtain ⟨key, _, quantity_eq, _⟩ := apart nameless other same
  exact ⟨key, quantity_eq⟩

end Order
end SlabBook

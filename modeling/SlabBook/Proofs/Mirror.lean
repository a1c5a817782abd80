import Mathlib.Data.List.Basic
import SlabBook.Proofs.DisplayOrder

/-!
# The two readings of one slab

The first byte of an account says whether it holds bids or asks, and nothing else is read from it.  The
same slab read as bids and as asks is spanned by the same trees, so both walks end normally or neither
does, and what one shows is what the other shows from the end.  Where both fail, each meets first what
stands in its own way.

* `decode_withDataType` — the code of the account is the code of the side and touches nothing else;
* `spans_withDataType`, `exists_orders_iff` — which slabs have orders, a question without a side;
* `bids_mirror_asks` — the two readings of an account.
-/

namespace SlabBook

/-! ## Bytes behind the first -/

namespace Bytes

/-- The buffer with another first byte, if it has one. -/
def withFirst (data : Bytes) (byte : UInt8) : Bytes := data.setIfInBounds 0 byte

variable {data : Bytes} {byte : UInt8} {offset : Int}

@[simp] theorem size_withFirst : (data.withFirst byte).size = data.size :=
  Array.size_setIfInBounds

theorem extract_withFirst {start stop : Nat} (behind : 1 ≤ start ∨ data.size = 0) :
    (data.withFirst byte).extract start stop = data.extract start stop := by
  apply Array.ext_getElem?
  intro i
  rw [Array.getElem?_extract, Array.getElem?_extract, size_withFirst]
  split
  case isTrue inside => exact Array.getElem?_setIfInBounds_ne (by omega)
  case isFalse => rfl

theorem slice?_withFirst (behind : 1 ≤ offset) (width : Nat) :
    (data.withFirst byte).slice? offset width = data.slice? offset width := by
  unfold slice?
  rw [size_withFirst, extract_withFirst (by omega)]

theorem clip_withFirst (behind : 1 ≤ offset) (width : Nat) :
    (data.withFirst byte).clip offset width = data.clip offset width := by
  unfold clip clamp
  rw [size_withFirst, extract_withFirst]
  split <;> omega

theorem byte?_withFirst (behind : 1 ≤ offset) :
    (data.withFirst byte).byte? offset = data.byte? offset := by
  rw [byte?, nat?, slice?_withFirst behind]
  rfl

theorem word32?_withFirst (behind : 1 ≤ offset) :
    (data.withFirst byte).word32? offset = data.word32? offset := by
  rw [word32?, nat?, slice?_withFirst behind]
  rfl

theorem word64?_withFirst (behind : 1 ≤ offset) :
    (data.withFirst byte).word64? offset = data.word64? offset := by
  rw [word64?, nat?, slice?_withFirst behind]
  rfl

theorem byte?_zero_withFirst (nonempty : 1 ≤ data.size) :
    (data.withFirst byte).byte? 0 = some byte := by
  refine byte?_of_holds fun i inside => ?_
  obtain rfl : i = 0 := Nat.lt_one_iff.1 inside
  exact Array.getElem?_setIfInBounds_self_of_lt nonempty

end Bytes

variable {data : Bytes} {byte : UInt8} {offset : Int}

theorem Node.address_withFirst (behind : 1 ≤ offset) :
    address (data.withFirst byte) offset = address data offset := by
  simp only [address, Bytes.clip_withFirst behind]

/-- A node never begins in the first byte of an account. -/
theorem Node.read?_withFirst (behind : 1 ≤ offset) :
    read? (data.withFirst byte) offset = read? data offset := by
  simp (disch := omega) only [read?, inner?, leaf?, key?, Bytes.signed64?, Bytes.byte?_withFirst,
    Bytes.word32?_withFirst, Bytes.word64?_withFirst, address_withFirst]

/-! ## The code of a side -/

/-- The account with another code for its side. -/
def Account.withDataType (account : Account) (code : UInt8) : Account :=
  { account with data := account.data.withFirst code }

def Header.withDataType (header : Header) (code : UInt8) : Header :=
  { header with metadata := { header.metadata with dataType := code } }

theorem Header.read?_withFirst {header : Header} (read : read? data = some header)
    (code : UInt8) : read? (data.withFirst code) = some (header.withDataType code) := by
  have nonempty : 1 ≤ data.size := by
    have whole := isSome_read?.1 (Option.isSome_of_eq_some read)
    simp only [length] at whole
    omega
  have extra_read : extraInfo? (data.withFirst code) = extraInfo? data := by
    rw [extraInfo?, Bytes.slice?_withFirst (by decide)]
    rfl
  simp only [read?, metadata?, bind, Option.bind_eq_some_iff, pure, Option.some.injEq] at read
  obtain ⟨_, ⟨_, _, version, versioned, initialized, flagged, extra, extended, rfl⟩, bump, bumped,
    length, counted, head, headed, root, rooted, leaves, leafed, rfl⟩ := read
  simp (disch := decide) only [read?, metadata?, bind, pure, Bytes.byte?_zero_withFirst nonempty,
    Bytes.byte?_withFirst, Bytes.word32?_withFirst, Bytes.word64?_withFirst, extra_read, versioned,
    flagged, extended, bumped, counted, headed, rooted, leafed, Option.bind_some]
  rfl

namespace BookSide

def withDataType (side : BookSide) (code : UInt8) : BookSide :=
  { side with header := side.header.withDataType code }

theorem decode_withDataType {account : Account} {market : Market} {capacity : Capacity}
    {side : BookSide} (decoded : decode account market capacity = .ok side) (code : UInt8) :
    decode (account.withDataType code) market capacity = .ok (side.withDataType code) := by
  obtain ⟨slots, slots_eq, size_eq, header, count, read, address_eq, market_eq⟩ :=
    decode_eq_ok_iff.1 decoded
  refine decode_eq_ok_iff.2 ⟨slots, slots_eq, ?_, Header.read?_withFirst header code, count, ?_,
    address_eq, market_eq⟩
  · rw [Account.withDataType, Bytes.size_withFirst, size_eq]
  · intro i inside
    refine (Node.read?_withFirst ?_).trans (read i inside)
    simp only [size, Header.length, Node.length]
    omega

variable {side : BookSide} {code : UInt8} {tree : SlotTree}

theorem fits_withDataType : tree.Fits (side.withDataType code) ↔ tree.Fits side := by
  induction tree with
  | leaf index node => rfl
  | inner index node lesser greater lesser_fits greater_fits =>
    simp only [SlotTree.Fits, lesser_fits, greater_fits]
    rfl

theorem spans_withDataType : tree.Spans (side.withDataType code) ↔ tree.Spans side := by
  constructor
  · rintro ⟨root_eq, fits, distinct, leaf_count⟩
    exact ⟨root_eq, fits_withDataType.1 fits, distinct, leaf_count⟩
  · rintro ⟨root_eq, fits, distinct, leaf_count⟩
    exact ⟨root_eq, fits_withDataType.2 fits, distinct, leaf_count⟩

theorem orders_of_leafCount_eq_zero (empty : side.header.leafCount = 0) : side.orders = .ok [] := by
  rw [orders_eq_ok_iff, walk_of_leafCount_eq_zero empty]
  exact ⟨rfl, rfl⟩

/-- A side has orders if it counts none or a tree spans it. -/
theorem exists_orders_iff :
    (∃ orders, side.orders = .ok orders) ↔
      side.header.leafCount = 0 ∨ ∃ tree : SlotTree, tree.Spans side := by
  constructor
  · rintro ⟨orders, success⟩
    by_cases empty : side.header.leafCount = 0
    · exact .inl empty
    · exact .inr (exists_spans_of_complete empty (orders_eq_ok_iff.1 success).1)
  · rintro (empty | ⟨tree, spans⟩)
    · exact ⟨_, orders_of_leafCount_eq_zero empty⟩
    · exact ⟨_, orders_of_spans spans⟩

theorem exists_orders_withDataType :
    (∃ orders, (side.withDataType code).orders = .ok orders) ↔ ∃ orders, side.orders = .ok orders := by
  simp only [exists_orders_iff, spans_withDataType]
  rfl

/-- The orders from the end, on the given side of the market. -/
def mirrored (side : OrderSide) (orders : List Order) : List Order :=
  (orders.map fun order => { order with side }).reverse

/-- What a side shows as bids it shows as asks from the end, and the other way around. -/
theorem orders_mirrored {falling rising : List Order}
    (bids : (side.withDataType 5).orders = .ok falling)
    (asks : (side.withDataType 6).orders = .ok rising) :
    falling = mirrored .buy rising ∧ rising = mirrored .sell falling := by
  rcases exists_orders_iff.1 (exists_orders_withDataType.1 ⟨_, bids⟩) with empty | ⟨tree, spans⟩
  · obtain rfl := Except.ok.inj (bids.symm.trans (orders_of_leafCount_eq_zero empty))
    obtain rfl := Except.ok.inj (asks.symm.trans (orders_of_leafCount_eq_zero empty))
    exact ⟨rfl, rfl⟩
  · obtain rfl := Except.ok.inj (bids.symm.trans (orders_of_spans (spans_withDataType.2 spans)))
    obtain rfl := Except.ok.inj (asks.symm.trans (orders_of_spans (spans_withDataType.2 spans)))
    have buys : (side.withDataType 5).orderSide = .buy := rfl
    have sells : (side.withDataType 6).orderSide = .sell := rfl
    constructor
    · simp only [mirrored, buys, sells, SlotTree.shown, List.map_reverse, List.map_map]
      rfl
    · simp only [mirrored, buys, sells, SlotTree.shown, List.map_reverse, List.reverse_reverse,
        List.map_map]
      rfl

/-- A slab of one inner node that is its own lesser child and whose other child lies nowhere. -/
def crossedAccount : Account where
  address := .fill 1
  data :=
    let word := Bytes.toLE 8
    let header := [List.replicate 8 0, word 1, word 0, word 0, word 1]
    let root := [[1, 0, 0, 0, 0, 0, 0, 0], word 0, word 0, [0, 0, 0, 0, 7, 0, 0, 0],
      List.replicate 56 0]
    (header ++ root).flatten.toArray

/-- A slab of the right size is decoded as bids and as asks.  One reading has orders just if the other
has, and then its orders are those of the other from the end, apart from their side.  Where there are no
orders the two may stop at different defects. -/
theorem bids_mirror_asks :
    (∀ (account : Account) (market : Market) (capacity : Capacity) (slots : Nat),
      capacity.slots = .ok slots → account.data.size = size slots →
        ∃ bids asks, decode (account.withDataType 5) market capacity = .ok bids ∧
          decode (account.withDataType 6) market capacity = .ok asks ∧
          bids.kind = .bids ∧ asks.kind = .asks ∧
          ((∃ orders, bids.orders = .ok orders) ↔ ∃ orders, asks.orders = .ok orders) ∧
          ∀ falling rising, bids.orders = .ok falling → asks.orders = .ok rising →
            falling = mirrored .buy rising ∧ rising = mirrored .sell falling) ∧
    ∃ (account : Account) (market : Market) (first second : Corruption),
      account.data.size = size 1 ∧ first ≠ second ∧
      decodeOrders (account.withDataType 5) .bids market (.whole 1) = .error (.corruptTree first) ∧
      decodeOrders (account.withDataType 6) .asks market (.whole 1) = .error (.corruptTree second) := by
  constructor
  · intro account market capacity slots slots_eq size_eq
    obtain ⟨side, decoded⟩ := exists_decode market slots_eq size_eq
    refine ⟨_, _, decode_withDataType decoded 5, decode_withDataType decoded 6, rfl, rfl, ?_,
      fun falling rising => orders_mirrored⟩
    rw [exists_orders_withDataType, exists_orders_withDataType]
  · exact ⟨crossedAccount, ⟨6, 6, 100, 10⟩, .outOfRange 7, .reachedTwice 0, by decide +kernel,
      by decide, by decide +kernel, by decide +kernel⟩

/-- The two bids, and the two asks that they are from the end. -/
theorem bids_mirror_asks_twoBids :
    (Capacity.whole 4).slots = .ok 4 ∧ SlotTree.twoBidsAccount.data.size = size 4 ∧
      ∃ bids asks falling rising,
        decode (SlotTree.twoBidsAccount.withDataType 5) ⟨6, 6, 100, 10⟩ (.whole 4) = .ok bids ∧
        decode (SlotTree.twoBidsAccount.withDataType 6) ⟨6, 6, 100, 10⟩ (.whole 4) = .ok asks ∧
        bids.orders = .ok falling ∧ asks.orders = .ok rising ∧ falling.length = 2 ∧
        falling = mirrored .buy rising ∧ rising = mirrored .sell falling := by
  have slots_eq : (Capacity.whole 4).slots = .ok 4 := Capacity.slots_whole (by decide)
  have size_eq := SlotTree.twoBids_written.size_eq
  obtain ⟨bids, asks, decoded, decoded_too, -, -, both, mirror⟩ :=
    bids_mirror_asks.1 SlotTree.twoBidsAccount ⟨6, 6, 100, 10⟩ (.whole 4) 4 slots_eq size_eq
  obtain ⟨side, read, -, -, spans⟩ := SlotTree.twoBids_written.exists_side ⟨6, 6, 100, 10⟩
  obtain rfl := Except.ok.inj (decoded.symm.trans (decode_withDataType read 5))
  have accepted : (side.withDataType 5).orders = .ok _ :=
    orders_of_spans (spans_withDataType.2 spans)
  obtain ⟨rising, accepted_too⟩ := both.1 ⟨_, accepted⟩
  exact ⟨slots_eq, size_eq, _, asks, _, rising, decoded, decoded_too, accepted, accepted_too, rfl,
    mirror _ rising accepted accepted_too⟩

end BookSide
end SlabBook

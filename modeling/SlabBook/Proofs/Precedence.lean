import SlabBook.Proofs.DisplayOrder
import SlabBook.Proofs.Encoding
import SlabBook.Proofs.Passes

/-!
# What an account is refused for

An account may be wrong in several ways at once.  Its length is looked at first, then its kind, and
only then its tree, to the end; so the answer is either the first cause or the whole side.

* `decode_eq_sizeMismatch` — the length decides before any read;
* `Judged`, `decodeOrders_judged` — what becomes of a side that was decoded;
* `decodeOrders_precedence` — all answers, and a damaged side whose walk meets orders.
-/

namespace SlabBook

variable {account : Account} {kind : SideKind} {market : Market} {slots : Nat}

namespace BookSide

/-! ## The length -/

theorem decode_eq_sizeMismatch (market : Market) (positive : 1 ≤ slots)
    (wrong : account.data.size ≠ size slots) :
    decode account market (.whole slots) =
      .error (.sizeMismatch account.data.size (reportedSize slots)) := by
  simp only [decode, Capacity.slots_whole positive, if_neg wrong]

/-! ## The kind and the tree -/

/-- The orders show the leaves of as many different slots as the header counts. -/
def ListsAll (side : BookSide) (orders : List Order) : Prop :=
  ∃ found : List (UInt32 × Leaf), found.length = side.header.leafCount.toNat ∧
    (found.map Prod.fst).Nodup ∧ (∀ entry ∈ found, side.Holds entry.1 (.leaf entry.2)) ∧
    side.ShowsAll found orders

theorem listsAll_of_complete {side : BookSide} (complete : side.walk.ending = .complete) :
    side.ListsAll (side.walk.orders side) := by
  obtain ⟨distinct, -, held⟩ := side.walk_leaves
  refine ⟨side.walk.leaves.toList, ?_, distinct, fun entry member => ?_, side.showsAll_map _⟩
  · rw [Array.length_toList]
    exact size_leaves_of_complete complete
  · exact held entry (Array.mem_toList_iff.1 member)

/-- What becomes of a side once it is decoded, when a kind of side is wanted: it has another kind, or
else its walk fails, or else all of its orders are listed. -/
structure Judged (side : BookSide) (kind : SideKind)
    (answer : Except PayloadError (List Order)) : Prop where
  mismatch_iff : ∀ expected actual, answer = .error (.sideMismatch expected actual) ↔
    side.kind ≠ kind ∧ expected = kind ∧ actual = side.kind
  corrupt_iff : ∀ cause, answer = .error (.corruptTree cause) ↔
    side.kind = kind ∧ side.walk.ending = .corrupt cause
  ok_iff : ∀ orders, answer = .ok orders ↔
    side.kind = kind ∧ side.walk.ending = .complete ∧ orders = side.walk.orders side
  whole : side.kind = kind → (∀ cause, side.walk.ending ≠ .corrupt cause) →
    ∃ orders, answer = .ok orders ∧ side.ListsAll orders ∧
      ∀ order ∈ orders, order.side = kind.orderSide

theorem decodeOrders_judged {capacity : Capacity} {side : BookSide}
    (decoded : decode account market capacity = .ok side) :
    side.Judged kind (decodeOrders account kind market capacity) := by
  unfold decodeOrders
  simp only [decoded]
  by_cases wanted : side.kind = kind
  · simp only [if_pos wanted]
    cases ordered : side.orders with
    | error cause =>
      have failed := orders_eq_error_iff.1 ordered
      exact
        { mismatch_iff := by simp [wanted]
          corrupt_iff := by
            intro other
            simp [wanted, failed]
          ok_iff := by simp [failed]
          whole := fun _ sound => absurd failed (sound cause) }
    | ok orders =>
      obtain ⟨complete, rfl⟩ := orders_eq_ok_iff.1 ordered
      have of_kind : ∀ order ∈ side.walk.orders side, order.side = kind.orderSide := by
        intro order member
        obtain ⟨entry, -, rfl⟩ := List.mem_map.1 member
        rw [← wanted]
        rfl
      exact
        { mismatch_iff := by simp [wanted]
          corrupt_iff := by simp [complete]
          ok_iff := by
            intro orders
            simp [wanted, complete, eq_comm]
          whole := fun _ _ => ⟨_, rfl, listsAll_of_complete complete, of_kind⟩ }
  · simp only [if_neg wanted]
    exact
      { mismatch_iff := by
          intro expected actual
          simp [wanted, eq_comm]
        corrupt_iff := by simp [wanted]
        ok_iff := by simp [wanted]
        whole := fun same => absurd same wanted }

/-- Nothing else can become of it. -/
theorem Judged.settled {side : BookSide} {answer : Except PayloadError (List Order)}
    (judged : side.Judged kind answer) :
    answer = .error (.sideMismatch kind side.kind) ∨ (∃ cause, answer = .error (.corruptTree cause)) ∨
      ∃ orders, answer = .ok orders := by
  by_cases wanted : side.kind = kind
  · by_cases failed : ∃ cause, side.walk.ending = .corrupt cause
    · obtain ⟨cause, failed⟩ := failed
      exact .inr (.inl ⟨cause, (judged.corrupt_iff cause).2 ⟨wanted, failed⟩⟩)
    · obtain ⟨orders, listed, -⟩ := judged.whole wanted (not_exists.1 failed)
      exact .inr (.inr ⟨orders, listed⟩)
  · exact .inl ((judged.mismatch_iff _ _).2 ⟨wanted, rfl, rfl⟩)

/-! ## A damaged side with an order -/

/-- A header with its root in the first slot, which counts two orders. -/
def twoCounted (kind : SideKind) : Header :=
  ⟨⟨kind.dataType, 1, true, .replicate 5 0⟩, 1, 0, 0, 0, 2⟩

def onlyLeaf : Leaf := ⟨0, 0, 0, 0, ⟨1, 1⟩, .fill 1, 1, 1, 1, 1⟩

/-- A slab with one order; the other slots were never used. -/
def oneHeld (slots : Nat) : List Node :=
  .leaf onlyLeaf :: List.replicate (slots - 1) .uninitialized

def miscounted (kind : SideKind) (slots : Nat) : Bytes :=
  encode (twoCounted kind) 1 (oneHeld slots) (Array.replicate (size slots) 0)

theorem length_oneHeld (positive : 1 ≤ slots) : (oneHeld slots).length = slots := by
  simp only [oneHeld, List.length_cons, List.length_replicate]
  omega

theorem hasTag_of_mem_oneHeld : ∀ node ∈ oneHeld slots, node.HasTag := by
  intro node member
  rcases List.mem_cons.1 member with rfl | later
  · trivial
  · rw [List.eq_of_mem_replicate later]
    trivial

theorem decode_miscounted (kind : SideKind) (market : Market) (positive : 1 ≤ slots) :
    decode ⟨.fill 0, miscounted kind slots, none, none⟩ market (.whole slots) =
      .ok ⟨.fill 0, market, twoCounted kind, (oneHeld slots).toArray⟩ := by
  have count := length_oneHeld positive
  have fits : (miscounted kind slots).size = size (oneHeld slots).length := by
    rw [miscounted, encode, Bytes.size_write, Array.size_replicate, count]
  have laid : (miscounted kind slots).Laid 0 (fields (twoCounted kind) 1 (oneHeld slots)) := by
    rw [miscounted, encode]
    exact Bytes.laid_write (fields_inRow _ _ _) (by simp [count])
  have decoded := decode_of_laid ⟨.fill 0, #[], none, none⟩ market (count.symm ▸ positive) fits rfl
    hasTag_of_mem_oneHeld laid
  rw [count] at decoded
  exact decoded

theorem walk_of_twoCounted {side : BookSide} {leaf : Leaf}
    (header : side.header = twoCounted kind) (held : side.nodes[0]? = some (.leaf leaf)) :
    side.walk = ⟨#[(0, leaf)], .corrupt (.leafCount 1 2)⟩ := by
  have root : side.Holds 0 (.leaf leaf) := ⟨by simp [header, twoCounted], held⟩
  have fresh : side.start.isFresh 0 = true := by
    have inside : 0 < side.nodes.size := root.index_lt
    simp [Cursor.isFresh_eq_true_iff, start, inside]
  have met : side.visit side.start =
      .leaf 0 leaf ⟨[], side.start.mark 0, side.start.reached + 1⟩ := by
    refine visit_eq_leaf_iff.2 ⟨[], ?_, root, fresh, rfl⟩
    simp [start, header, twoCounted]
  rw [walk, walkFrom_eq, met]
  simp only
  rw [walkFrom_eq]
  simp [visit, start, header, twoCounted]

/-- For any number of slots and any kind there is an account whose walk meets an order and fails, and
which is refused for that. -/
theorem exists_damaged (kind : SideKind) (market : Market) (positive : 1 ≤ slots) :
    ∃ damaged side cause, decode damaged market (.whole slots) = .ok side ∧ side.kind = kind ∧
      side.walk.leaves ≠ #[] ∧ side.walk.ending = .corrupt cause ∧
      decodeOrders damaged kind market (.whole slots) = .error (.corruptTree cause) := by
  have decoded := decode_miscounted kind market positive
  have walked : (BookSide.mk (.fill 0) market (twoCounted kind) (oneHeld slots).toArray).walk =
      ⟨#[(0, onlyLeaf)], .corrupt (.leafCount 1 2)⟩ := walk_of_twoCounted rfl rfl
  have wanted : (BookSide.mk (.fill 0) market (twoCounted kind) (oneHeld slots).toArray).kind = kind :=
    SideKind.ofDataType_dataType kind
  refine ⟨_, _, .leafCount 1 2, decoded, wanted, ?_, ?_, ?_⟩
  · rw [walked]
    simp
  · rw [walked]
  · refine ((decodeOrders_judged decoded).corrupt_iff _).2 ⟨wanted, ?_⟩
    rw [walked]

end BookSide

open BookSide

/-- An account is answered with the first cause that applies, in this order: its length is not that of
so many slots, its side is of another kind, its walk fails.  No read leaves the buffer.  Without a
cause all orders of the side are listed, and what the walk of a damaged side meets, which may be
orders, is never part of an answer. -/
theorem decodeOrders_precedence (account : Account) (kind : SideKind) (market : Market)
    (positive : 1 ≤ slots) :
    let answer := decodeOrders account kind market (.whole slots)
    (∀ actual expected, answer = .error (.sizeMismatch actual expected) ↔
        account.data.size ≠ 40 + 88 * slots ∧ actual = account.data.size ∧
          expected = reportedSize slots) ∧
      answer ≠ .error .outOfBounds ∧
      (account.data.size = 40 + 88 * slots →
        ∃ side, BookSide.decode account market (.whole slots) = .ok side ∧
          side.Judged kind answer) ∧
      ∃ damaged side cause, BookSide.decode damaged market (.whole slots) = .ok side ∧
        side.kind = kind ∧ side.walk.leaves ≠ #[] ∧ side.walk.ending = .corrupt cause ∧
        decodeOrders damaged kind market (.whole slots) = .error (.corruptTree cause) := by
  intro answer
  have damage := exists_damaged kind market positive
  by_cases fits : account.data.size = size slots
  · obtain ⟨side, decoded⟩ := exists_decode market (Capacity.slots_whole positive) fits
    have judged : side.Judged kind answer := decodeOrders_judged decoded
    have other : (∀ actual expected, answer ≠ .error (.sizeMismatch actual expected)) ∧
        answer ≠ .error .outOfBounds := by
      rcases judged.settled with mismatched | ⟨cause, failed⟩ | ⟨orders, listed⟩
      · simp [mismatched]
      · simp [failed]
      · simp [listed]
    refine ⟨fun actual expected => ?_, other.2, fun _ => ⟨side, decoded, judged⟩, damage⟩
    exact iff_of_false (other.1 actual expected) fun ⟨wrong, _⟩ => wrong fits
  · have refused : answer = .error (.sizeMismatch account.data.size (reportedSize slots)) := by
      simp only [answer, decodeOrders, decode_eq_sizeMismatch market positive fits]
    refine ⟨fun actual expected => ?_, by simp [refused], fun same => absurd same fits, damage⟩
    have wrong : account.data.size ≠ 40 + 88 * slots := fits
    simp [refused, wrong, eq_comm]

/-- A header that counts one order among bids, over a slot that was never used. -/
def damagedBids : Account where
  address := .fill 1
  data :=
    let word := Bytes.toLE 8
    [[5, 0, 0, 0, 0, 0, 0, 0], word 1, word 0, word 0, word 1, List.replicate 88 0].flatten.toArray

/-- Read as two slots of asks its length is wrong, as one slot of asks its kind, and as one slot of
bids its tree. -/
theorem decodeOrders_precedence_damagedBids :
    decodeOrders damagedBids .asks ⟨6, 6, 100, 10⟩ (.whole 2) =
        .error (.sizeMismatch 128 (reportedSize 2)) ∧
      decodeOrders damagedBids .asks ⟨6, 6, 100, 10⟩ (.whole 1) =
        .error (.sideMismatch .asks .bids) ∧
      decodeOrders damagedBids .bids ⟨6, 6, 100, 10⟩ (.whole 1) =
        .error (.corruptTree (.uninitializedNode 0)) := by
  let market : Market := ⟨6, 6, 100, 10⟩
  let header : Header := ⟨⟨5, 0, false, .replicate 5 0⟩, 1, 0, 0, 0, 1⟩
  have decoded : BookSide.decode damagedBids market (.whole 1) =
      .ok ⟨.fill 1, market, header, #[.uninitialized]⟩ := by decide +kernel
  have failed : (BookSide.mk (.fill 1) market header #[.uninitialized]).walk.ending =
      .corrupt (.uninitializedNode 0) := by
    rw [walk, walkFrom_eq]
    rfl
  have length_eq : damagedBids.data.size = 40 + 88 * 1 := by decide +kernel
  obtain ⟨mismatch_iff, -⟩ := decodeOrders_precedence damagedBids .asks market (show 1 ≤ 2 by decide)
  obtain ⟨-, -, as_asks, -⟩ :=
    decodeOrders_precedence damagedBids .asks market (Nat.le_refl 1)
  obtain ⟨-, -, as_bids, -⟩ :=
    decodeOrders_precedence damagedBids .bids market (Nat.le_refl 1)
  obtain ⟨asks, asks_decoded, asks_judged⟩ := as_asks length_eq
  obtain ⟨bids, bids_decoded, bids_judged⟩ := as_bids length_eq
  obtain rfl := Except.ok.inj (decoded.symm.trans asks_decoded)
  obtain rfl := Except.ok.inj (decoded.symm.trans bids_decoded)
  refine ⟨(mismatch_iff _ _).2 ⟨by rw [length_eq]; decide, length_eq.symm, rfl⟩, ?_, ?_⟩
  · exact (asks_judged.mismatch_iff _ _).2 ⟨by decide, rfl, rfl⟩
  · exact (bids_judged.corrupt_iff _).2 ⟨by decide, failed⟩

end SlabBook

import SlabBook.Proofs.Layout
import SlabBook.Proofs.WalkTree

/-!
# Display order

A slab that holds a search tree is shown completely and in order.  `Written` says that an account
holds such a tree: header and nodes stand at their places, and all bytes that belong to neither are
free.  A written tree is shown as one list of all its leaves.
-/

namespace SlabBook

namespace SideKind

/-- The code of a side in the header of its account. -/
def dataType : SideKind → UInt8
  | .bids => 5
  | .asks => 6

theorem ofDataType_dataType (kind : SideKind) : ofDataType kind.dataType = kind := by
  cases kind <;> rfl

/-- The first number is shown before the second. -/
def Before : SideKind → Nat → Nat → Prop
  | .bids, first, second => second < first
  | .asks, first, second => first < second

end SideKind

namespace SlotTree

/-- Every key below the lesser child of an inner node is less than every key below the other. -/
def Ordered : SlotTree → Prop
  | leaf _ _ => True
  | inner _ _ lesser greater =>
    lesser.Ordered ∧ greater.Ordered ∧
      ∀ low ∈ lesser.leaves, ∀ high ∈ greater.leaves, low.2.key.toNat < high.2.key.toNat

/-- Every node of the tree is laid out in its slot, and the children of an inner node name the
slots of the nodes below it. -/
def LaidIn (data : Bytes) : SlotTree → Prop
  | leaf index node => data.Laid (BookSide.size index.toNat) (Node.leaf node).fields
  | inner index node lesser greater =>
    data.Laid (BookSide.size index.toNat) (Node.inner node).fields ∧
      (node.lesser = lesser.root ∧ lesser.LaidIn data) ∧
      (node.greater = greater.root ∧ greater.LaidIn data)

instance decidableOrdered : (tree : SlotTree) → Decidable tree.Ordered
  | leaf _ _ => inferInstanceAs (Decidable True)
  | inner _ _ lesser greater =>
    have := decidableOrdered lesser
    have := decidableOrdered greater
    inferInstanceAs (Decidable (lesser.Ordered ∧ greater.Ordered ∧
      ∀ low ∈ lesser.leaves, ∀ high ∈ greater.leaves, low.2.key.toNat < high.2.key.toNat))

instance decidableLaidIn (data : Bytes) : (tree : SlotTree) → Decidable (tree.LaidIn data)
  | leaf index node =>
    inferInstanceAs (Decidable (data.Laid (BookSide.size index.toNat) (Node.leaf node).fields))
  | inner index node lesser greater =>
    have := decidableLaidIn data lesser
    have := decidableLaidIn data greater
    inferInstanceAs (Decidable (data.Laid (BookSide.size index.toNat) (Node.inner node).fields ∧
      (node.lesser = lesser.root ∧ lesser.LaidIn data) ∧
      (node.greater = greater.root ∧ greater.LaidIn data)))

/-- An account of the given capacity holds the tree as one side of a book.  The flag is the byte
that says whether the account is initialized. -/
structure Written (tree : SlotTree) (data : Bytes) (capacity : Nat) (kind : SideKind)
    (header : Header) (flag : UInt8) : Prop where
  size_eq : data.size = BookSide.size capacity
  header_laid : data.Laid 0 (header.fields flag)
  flag_eq : header.metadata.isInitialized = (flag != 0)
  dataType_eq : header.metadata.dataType = kind.dataType
  root_eq : tree.root = header.rootNode
  leaf_count : tree.leaves.length = header.leafCount.toNat
  laid : tree.LaidIn data
  below : ∀ index ∈ tree.slots, index.toNat < capacity ∧ index.toNat < header.bumpIndex.toNat
  distinct : tree.slots.Nodup
  ordered : tree.Ordered

theorem leaves_sorted {tree : SlotTree} (ordered : tree.Ordered) :
    tree.leaves.Pairwise fun low high => low.2.key.toNat < high.2.key.toNat := by
  induction tree with
  | leaf index node => simp [leaves]
  | inner index node lesser greater lesser_sorted greater_sorted =>
    obtain ⟨lesser_ordered, greater_ordered, across⟩ := ordered
    exact List.pairwise_append.2
      ⟨lesser_sorted lesser_ordered, greater_sorted greater_ordered, across⟩

theorem shown_sorted {tree : SlotTree} (ordered : tree.Ordered) (kind : SideKind) :
    (tree.shown kind.orderSide).Pairwise fun first second =>
      kind.Before first.2.key.toNat second.2.key.toNat := by
  cases kind with
  | bids => exact List.pairwise_reverse.2 (leaves_sorted ordered)
  | asks => exact leaves_sorted ordered

/-- A tree laid out in the bytes of an account fits the side that is decoded from them. -/
theorem fits_of_laidIn {tree : SlotTree} {account : Account} {market : Market} {capacity : Capacity}
    {side : BookSide} (decoded : BookSide.decode account market capacity = .ok side)
    (laid : tree.LaidIn account.data)
    (below : ∀ index ∈ tree.slots,
      index.toNat < side.nodes.size ∧ index.toNat < side.header.bumpIndex.toNat) :
    tree.Fits side := by
  obtain ⟨slots, -, -, -, rfl, read, -, -⟩ := BookSide.decode_eq_ok_iff.1 decoded
  have held : ∀ {index : UInt32} {node : Node}, node.HasTag →
      account.data.Laid (BookSide.size index.toNat) node.fields →
      index.toNat < side.nodes.size ∧ index.toNat < side.header.bumpIndex.toNat →
      side.Holds index node := by
    intro index node hasTag laid inside
    exact ⟨inside.2, (read _ inside.1).symm.trans (Node.read?_of_laid hasTag laid)⟩
  induction tree with
  | leaf index node => exact held trivial laid (below index (by simp [slots]))
  | inner index node lesser greater lesser_fits greater_fits =>
    obtain ⟨here, ⟨lesser_eq, lesser_laid⟩, greater_eq, greater_laid⟩ := laid
    simp only [SlotTree.slots, List.forall_mem_cons, List.forall_mem_append] at below
    exact ⟨held trivial here below.1, ⟨lesser_eq, lesser_fits lesser_laid below.2.1⟩,
      greater_eq, greater_fits greater_laid below.2.2⟩

/-- The side that is decoded from a written tree, which the tree spans. -/
theorem Written.exists_side {tree : SlotTree} {account : Account} {capacity : Nat}
    {kind : SideKind} {header : Header} {flag : UInt8}
    (written : tree.Written account.data capacity kind header flag) (market : Market) :
    ∃ side, BookSide.decode account market (.whole capacity) = .ok side ∧ side.kind = kind ∧
      side.market = market ∧ tree.Spans side := by
  have root_below := (written.below _ tree.root_mem_slots).1
  have slots_eq : (Capacity.whole capacity).slots = .ok capacity :=
    Capacity.slots_whole (by omega)
  obtain ⟨side, decoded⟩ := BookSide.exists_decode market slots_eq written.size_eq
  obtain ⟨slots, slots_eq', -, header_eq, count, -, -, market_eq⟩ :=
    BookSide.decode_eq_ok_iff.1 decoded
  rw [slots_eq, Except.ok.injEq] at slots_eq'
  rw [Header.read?_of_laid written.header_laid written.flag_eq, Option.some.injEq] at header_eq
  subst slots_eq' header_eq
  refine ⟨side, decoded, ?_, market_eq, written.root_eq, ?_, written.distinct,
    written.leaf_count⟩
  · rw [BookSide.kind, written.dataType_eq, kind.ofDataType_dataType]
  · exact fits_of_laidIn decoded written.laid fun index member =>
      count.symm ▸ written.below index member

end SlotTree

namespace OrderKey

/-- Keys are compared by price first and by sequence among equal prices. -/
theorem before_iff (kind : SideKind) (first second : OrderKey) :
    kind.Before first.toNat second.toNat ↔
      kind.Before first.price.toNat second.price.toNat ∨
        first.price = second.price ∧ kind.Before first.sequence.toNat second.sequence.toNat := by
  have first_bound := first.sequence.toNat_lt
  have second_bound := second.sequence.toNat_lt
  rw [← UInt64.toNat_inj]
  cases kind <;> simp only [SideKind.Before, toNat, UInt64.size] <;> omega

end OrderKey

namespace SlotTree

/-- The orders of a side are the leaves of a tree, each once and in display order: by strictly
descending keys for bids and strictly ascending keys for asks.  Each shows the fields of its leaf.  The
best order is the extreme one. -/
structure ShownAs (tree : SlotTree) (side : BookSide) (orders : List Order) (best : Order) :
    Prop where
  accepted : side.orders = .ok orders
  complete : orders.Perm
    (tree.leaves.map fun found => .ofLeaf side.market side.kind.orderSide found.2)
  shows : ∃ found, found.Perm tree.leaves ∧ side.ShowsAll found orders
  by_key : orders.Pairwise fun first second =>
    side.kind.Before first.key.toNat second.key.toNat
  by_price : orders.Pairwise fun first second =>
    side.kind.Before first.key.price.toNat second.key.price.toNat ∨
      first.key.price = second.key.price ∧
        side.kind.Before first.key.sequence.toNat second.key.sequence.toNat
  best_eq : side.best = .ok (some best)
  best_mem : best ∈ orders
  extreme : ∀ order ∈ orders, order = best ∨ side.kind.Before best.key.toNat order.key.toNat

/-- A side that a search tree spans is shown completely and in order. -/
theorem Spans.shownAs {tree : SlotTree} {side : BookSide} (spans : tree.Spans side)
    (ordered : tree.Ordered) : ∃ orders best, tree.ShownAs side orders best := by
  have sorted := shown_sorted ordered side.kind
  have first_eq := BookSide.first?_of_spans spans
  obtain ⟨first, rest, shown_eq⟩ := List.exists_cons_of_ne_nil (tree.shown_ne_nil side.orderSide)
  refine ⟨_, .ofLeaf side.market side.orderSide first.2, BookSide.orders_of_spans spans,
    (tree.shown_perm side.orderSide).map _, ⟨_, tree.shown_perm side.orderSide,
      side.showsAll_map _⟩, ?_, ?_, ?_, ?_, ?_⟩
  · exact List.pairwise_map.2 sorted
  · exact List.pairwise_map.2 (sorted.imp (OrderKey.before_iff _ _ _).1)
  · rw [BookSide.best, first_eq, shown_eq]
    rfl
  · simp [shown_eq]
  · rw [← BookSide.orderSide, shown_eq] at sorted
    intro order member
    simp only [shown_eq, List.map_cons, List.mem_cons, List.mem_map] at member
    rcases member with rfl | ⟨found, later, rfl⟩
    · exact Or.inl rfl
    · exact Or.inr ((List.pairwise_cons.1 sorted).1 found later)

/-- An account that holds a search tree is decoded to the side it was written as, and that side
is shown completely and in order. -/
theorem Written.exists_shownAs {tree : SlotTree} {account : Account} {capacity : Nat}
    {kind : SideKind} {header : Header} {flag : UInt8}
    (written : tree.Written account.data capacity kind header flag) (market : Market) :
    ∃ side orders best, BookSide.decode account market (.whole capacity) = .ok side ∧
      side.kind = kind ∧ side.market = market ∧ tree.ShownAs side orders best := by
  obtain ⟨side, decoded, kind_eq, market_eq, spans⟩ := written.exists_side market
  obtain ⟨orders, best, shownAs⟩ := spans.shownAs written.ordered
  exact ⟨side, orders, best, decoded, kind_eq, market_eq, shownAs⟩

/-- Two bids of one price, the root in the last of four slots and one slot never used. -/
def twoBids : SlotTree :=
  .inner 3 ⟨7, ⟨1, 1⟩, 1, 0, 9, 9⟩
    (.leaf 1 ⟨0, 0, 0, 0, ⟨1, 2⟩, .fill 1, 5, 0, 5, 0⟩)
    (.leaf 0 ⟨0, 4, 0, 0, ⟨1, 3⟩, .fill 2, -6, 1, 6, 1⟩)

def twoBidsHeader : Header :=
  ⟨⟨5, 0, true, Vector.replicate 5 0⟩, 4, 0, 0, 3, 2⟩

/-- An account that holds the two bids.  Its third slot and the rest of its fourth are free. -/
def twoBidsAccount : Account where
  address := .fill 1
  data :=
    let word := Bytes.toLE 8
    let header := [[5, 0, 1, 0, 0, 0, 0, 0], word 4, word 0, [0, 0, 0, 0, 3, 0, 0, 0], word 2]
    let high := [[2, 0, 0, 0, 0, 4, 0, 0], word 3, word 1, List.replicate 32 2,
      word (UInt64.size - 6), word 1, word 6, word 1]
    let low := [[2, 0, 0, 0, 0, 0, 0, 0], word 2, word 1, List.replicate 32 1,
      word 5, word 0, word 5, word 0]
    let unused := [List.replicate 88 0xee]
    let root := [[1, 0, 0, 0, 7, 0, 0, 0], word 1, word 1, [1, 0, 0, 0, 0, 0, 0, 0],
      word 9, word 9, List.replicate 40 0xee]
    [header, high, low, unused, root].flatten.flatten.toArray

theorem twoBids_written : twoBids.Written twoBidsAccount.data 4 .bids twoBidsHeader 1 where
  size_eq := by decide +kernel
  header_laid := by decide +kernel
  flag_eq := by decide
  dataType_eq := by decide
  root_eq := by decide
  leaf_count := by decide
  laid := by decide +kernel
  below := by
    intro index member
    have cases : index = 3 ∨ index = 1 ∨ index = 0 := by simpa [twoBids, slots] using member
    rcases cases with rfl | rfl | rfl <;> decide
  distinct := by decide
  ordered := by decide

theorem twoBids_shownAs :
    twoBids.Written twoBidsAccount.data 4 .bids twoBidsHeader 1 ∧
      ∃ side orders best,
        BookSide.decode twoBidsAccount ⟨6, 6, 100, 10⟩ (.whole 4) = .ok side ∧
          side.kind = .bids ∧ side.market = ⟨6, 6, 100, 10⟩ ∧ twoBids.ShownAs side orders best :=
  ⟨twoBids_written, Written.exists_shownAs twoBids_written ⟨6, 6, 100, 10⟩⟩

end SlotTree
end SlabBook

import Mathlib.Data.List.Forall2
import SlabBook.Proofs.SlotTree
import SlabBook.Proofs.Walk

/-!
# Walks and trees

A walk ends normally exactly when a tree spans the side.  Between two visits the pending slots are
the roots of a forest that is still to come: `Covers` says which forests a cursor can have before
it, and each visit takes one node off the front.

* `covers_nil_iff`, `covers_leaf_iff`, `Covers.visit_inner` — what one visit does to the forest;
* `walkFrom_of_covers` — a walk with a forest before it meets exactly its leaves;
* `exists_covers_of_complete` — a walk that ends normally had a forest before it.
-/

namespace SlabBook

theorem OrderType.ofCode_eq (code : UInt8) :
    ofCode code = [limit, ioc, postOnly, market, postOnlySlide].getD code.toNat unknown := by
  have every : ∀ value : Fin 256, ofCode (.ofNat value.val) =
      [limit, ioc, postOnly, market, postOnlySlide].getD value.val unknown := by decide +kernel
  have same := every ⟨code.toNat, code.toNat_lt⟩
  rwa [UInt8.ofNat_toNat] at same

/-- The order shows the leaf: each field is that of the leaf, priced and sized by the market, and the
type is the one that the leaf's code counts off. -/
structure Order.Shows (order : Order) (market : Market) (side : OrderSide) (leaf : Leaf) : Prop where
  key : order.key = leaf.key
  clientOrderId : order.clientOrderId = leaf.clientOrderId
  owner : order.owner = leaf.owner
  side : order.side = side
  price : order.price = market.price leaf.key.price.toNat
  quantity : order.quantity = market.quantity leaf.quantity.toInt
  orderType : order.orderType =
    [.limit, .ioc, .postOnly, .market, .postOnlySlide].getD leaf.orderType.toNat .unknown
  timestamp : order.timestamp = leaf.timestamp

theorem Order.shows_ofLeaf (market : Market) (side : OrderSide) (leaf : Leaf) :
    (ofLeaf market side leaf).Shows market side leaf :=
  ⟨rfl, rfl, rfl, rfl, rfl, rfl, OrderType.ofCode_eq leaf.orderType, rfl⟩

namespace BookSide

variable {side : BookSide} {cursor next : Cursor}

/-- One order of the side shows each of the leaves, in their order. -/
def ShowsAll (side : BookSide) (found : List (UInt32 × Leaf)) (orders : List Order) : Prop :=
  List.Forall₂ (fun entry order => order.Shows side.market side.kind.orderSide entry.2) found orders

theorem showsAll_map (side : BookSide) (found : List (UInt32 × Leaf)) :
    side.ShowsAll found (found.map fun entry => .ofLeaf side.market side.orderSide entry.2) :=
  List.forall₂_map_right_iff.2 (List.forall₂_same.2 fun entry _ =>
    Order.shows_ofLeaf side.market side.kind.orderSide entry.2)

/-! ## Forests before a cursor -/

/-- The trees of the forest hang from the pending slots, use only fresh slots and none twice, and
with the leaves met so far have as many leaves as the header says. -/
structure Covers (side : BookSide) (cursor : Cursor) (forest : List SlotTree) : Prop where
  roots : cursor.pending = forest.map SlotTree.root
  fits : ∀ tree ∈ forest, tree.Fits side
  distinct : (forest.flatMap SlotTree.slots).Nodup
  fresh : ∀ index ∈ forest.flatMap SlotTree.slots, cursor.isFresh index = true
  leaf_count : cursor.reached + (forest.flatMap SlotTree.leaves).length =
    side.header.leafCount.toNat

/-- The two trees below an inner node in the order in which the side visits them. -/
def subtrees (side : BookSide) (lesser greater : SlotTree) : List SlotTree :=
  match side.orderSide with
  | .buy => [greater, lesser]
  | .sell => [lesser, greater]

theorem subtrees_perm (side : BookSide) (lesser greater : SlotTree) :
    (side.subtrees lesser greater).Perm [lesser, greater] := by
  unfold subtrees
  split
  · exact List.Perm.swap _ _ _
  · exact List.Perm.refl _

theorem map_root_subtrees {node : Inner} {lesser greater : SlotTree}
    (lesser_eq : node.lesser = lesser.root) (greater_eq : node.greater = greater.root) :
    (side.subtrees lesser greater).map SlotTree.root = side.children node := by
  unfold subtrees children
  cases side.orderSide <;> simp [lesser_eq, greater_eq]

theorem shown_inner (index : UInt32) (node : Inner) (lesser greater : SlotTree) :
    (SlotTree.inner index node lesser greater).shown side.orderSide =
      (side.subtrees lesser greater).flatMap (·.shown side.orderSide) := by
  unfold subtrees
  split
  next buys => simp [buys, SlotTree.shown, SlotTree.leaves]
  next sells => simp [sells, SlotTree.shown, SlotTree.leaves]

theorem covers_nil_iff :
    side.Covers cursor [] ↔
      cursor.pending = [] ∧ cursor.reached = side.header.leafCount.toNat := by
  constructor
  · intro covers
    exact ⟨covers.roots, by simpa using covers.leaf_count⟩
  · rintro ⟨none_left, equal⟩
    exact ⟨none_left, by simp, by simp, by simp, by simpa using equal⟩

theorem covers_leaf_iff {index : UInt32} {node : Leaf} {forest : List SlotTree} :
    side.Covers cursor (.leaf index node :: forest) ↔
      ∃ next, side.visit cursor = .leaf index node next ∧ side.Covers next forest := by
  constructor
  · intro covers
    have distinct := covers.distinct
    have fresh := covers.fresh
    have leaf_count := covers.leaf_count
    simp only [List.flatMap_cons, SlotTree.slots, SlotTree.leaves, List.singleton_append,
      List.nodup_cons, List.mem_cons, List.length_cons, forall_eq_or_imp]
      at distinct fresh leaf_count
    refine ⟨⟨forest.map SlotTree.root, cursor.mark index, cursor.reached + 1⟩, ?_, ?_⟩
    · have held : side.Holds index (.leaf node) := covers.fits _ List.mem_cons_self
      exact visit_eq_leaf_iff.2 ⟨_, covers.roots, held, fresh.1, rfl⟩
    · refine ⟨rfl, fun tree member => covers.fits tree (by simp [member]), distinct.2, ?_, ?_⟩
      · intro queried member
        refine Cursor.isFresh_mark.2 ⟨?_, fresh.2 queried member⟩
        rintro rfl
        exact distinct.1 member
      · simp only
        omega
  · rintro ⟨next, met, covers⟩
    obtain ⟨rest, pending, held, fresh, rfl⟩ := visit_eq_leaf_iff.1 met
    have roots := covers.roots
    have leaf_count := covers.leaf_count
    have marked := fun queried member => Cursor.isFresh_mark.1 (covers.fresh queried member)
    simp only at roots leaf_count
    constructor
    · rw [pending, roots]
      rfl
    · simpa [SlotTree.Fits, held] using covers.fits
    · simp only [List.flatMap_cons, SlotTree.slots, List.singleton_append, List.nodup_cons]
      exact ⟨fun member => (marked index member).1 rfl, covers.distinct⟩
    · simp only [List.flatMap_cons, SlotTree.slots, List.singleton_append, List.mem_cons,
        forall_eq_or_imp]
      exact ⟨fresh, fun queried member => (marked queried member).2⟩
    · simp only [List.flatMap_cons, SlotTree.leaves, List.singleton_append, List.length_cons]
      omega

/-- The forest below an inner node, up to the order of its trees. -/
theorem flatMap_subtrees_perm {α : Type} (side : BookSide) (f : SlotTree → List α)
    (lesser greater : SlotTree) (forest : List SlotTree) :
    ((side.subtrees lesser greater ++ forest).flatMap f).Perm
      (f lesser ++ f greater ++ forest.flatMap f) := by
  rw [List.flatMap_append]
  refine List.Perm.append_right _ ?_
  simpa using (side.subtrees_perm lesser greater).flatMap_right f

theorem Covers.visit_inner {index : UInt32} {node : Inner} {lesser greater : SlotTree}
    {forest : List SlotTree}
    (covers : side.Covers cursor (.inner index node lesser greater :: forest)) :
    ∃ next, side.visit cursor = .inner next ∧
      side.Covers next (side.subtrees lesser greater ++ forest) := by
  obtain ⟨held, ⟨lesser_eq, lesser_fits⟩, greater_eq, greater_fits⟩ :=
    covers.fits _ List.mem_cons_self
  have distinct := covers.distinct
  have fresh := covers.fresh
  have leaf_count := covers.leaf_count
  simp only [List.flatMap_cons, SlotTree.slots, SlotTree.leaves, List.cons_append,
    List.nodup_cons, List.mem_cons, forall_eq_or_imp] at distinct fresh leaf_count
  have slots := flatMap_subtrees_perm side SlotTree.slots lesser greater forest
  have leaves := flatMap_subtrees_perm side SlotTree.leaves lesser greater forest
  refine ⟨_, visit_eq_inner_iff.2 ⟨index, node, _, covers.roots, held, fresh.1, rfl⟩, ?_, ?_,
    slots.nodup_iff.2 distinct.2, ?_, ?_⟩
  · rw [List.map_append, map_root_subtrees lesser_eq greater_eq]
  · intro tree member
    rw [List.mem_append, (side.subtrees_perm lesser greater).mem_iff] at member
    rcases member with below | later
    · simp only [List.mem_cons, List.not_mem_nil, or_false] at below
      rcases below with rfl | rfl
      · exact lesser_fits
      · exact greater_fits
    · exact covers.fits tree (List.mem_cons_of_mem _ later)
  · intro queried member
    have member := slots.mem_iff.1 member
    refine Cursor.isFresh_mark.2 ⟨?_, fresh.2 queried member⟩
    rintro rfl
    exact distinct.1 member
  · rw [leaves.length_eq]
    exact leaf_count

/-- The two children of an inner node are the roots of two trees that lie below it. -/
theorem exists_subtrees {node : Inner} {rest : List UInt32} {forest : List SlotTree}
    (roots : side.children node ++ rest = forest.map SlotTree.root) :
    ∃ lesser greater later, forest = side.subtrees lesser greater ++ later ∧
      rest = later.map SlotTree.root ∧ node.lesser = lesser.root ∧
      node.greater = greater.root := by
  cases shown : side.orderSide with
  | buy =>
    simp only [children, shown] at roots
    obtain ⟨greater, below, rfl, greater_eq, roots⟩ := List.map_eq_cons_iff.1 roots.symm
    obtain ⟨lesser, later, rfl, lesser_eq, roots⟩ := List.map_eq_cons_iff.1 roots
    exact ⟨lesser, greater, later, by simp [subtrees, shown], roots.symm, lesser_eq.symm,
      greater_eq.symm⟩
  | sell =>
    simp only [children, shown] at roots
    obtain ⟨lesser, below, rfl, lesser_eq, roots⟩ := List.map_eq_cons_iff.1 roots.symm
    obtain ⟨greater, later, rfl, greater_eq, roots⟩ := List.map_eq_cons_iff.1 roots
    exact ⟨lesser, greater, later, by simp [subtrees, shown], roots.symm, lesser_eq.symm,
      greater_eq.symm⟩

theorem Covers.of_visit_inner {forest : List SlotTree}
    (met : side.visit cursor = .inner next) (covers : side.Covers next forest) :
    ∃ forest, side.Covers cursor forest := by
  obtain ⟨index, node, rest, pending, held, fresh, rfl⟩ := visit_eq_inner_iff.1 met
  obtain ⟨lesser, greater, later, rfl, rest_eq, lesser_eq, greater_eq⟩ :=
    exists_subtrees covers.roots
  have slots := flatMap_subtrees_perm side SlotTree.slots lesser greater later
  have leaves := flatMap_subtrees_perm side SlotTree.leaves lesser greater later
  have below : ∀ tree ∈ [lesser, greater], tree.Fits side := fun tree member =>
    covers.fits tree (List.mem_append_left _ ((side.subtrees_perm lesser greater).mem_iff.2 member))
  have marked := fun queried member =>
    Cursor.isFresh_mark.1 (covers.fresh queried (slots.mem_iff.2 member))
  have leaf_count := covers.leaf_count
  rw [leaves.length_eq] at leaf_count
  refine ⟨.inner index node lesser greater :: later, ?_, ?_, ?_, ?_, leaf_count⟩
  · rw [pending, rest_eq]
    rfl
  · intro tree member
    rcases List.mem_cons.1 member with rfl | later_tree
    · exact ⟨held, ⟨lesser_eq, below _ (by simp)⟩, greater_eq, below _ (by simp)⟩
    · exact covers.fits tree (List.mem_append_right _ later_tree)
  · exact List.nodup_cons.2 ⟨fun member => (marked index member).1 rfl,
      slots.nodup_iff.1 covers.distinct⟩
  · intro queried member
    rcases List.mem_cons.1 member with rfl | later_slot
    · exact fresh
    · exact (marked queried later_slot).2

/-! ## Whole walks -/

theorem walkFrom_of_covers {forest : List SlotTree} {found : Array (UInt32 × Leaf)}
    (covers : side.Covers cursor forest) :
    side.walkFrom cursor found =
      ⟨found ++ forest.flatMap (·.shown side.orderSide), .complete⟩ := by
  induction left : cursor.unvisited using Nat.strongRecOn generalizing cursor forest found with
  | ind left ih =>
    rcases forest with _ | ⟨⟨index, node⟩ | ⟨index, node, lesser, greater⟩, later⟩
    · rw [walkFrom_eq, visit_eq_finished_iff.2 (covers_nil_iff.1 covers)]
      simp
    · obtain ⟨next, met, covers⟩ := covers_leaf_iff.1 covers
      rw [walkFrom_eq, met]
      simp [ih _ (left ▸ unvisited_lt_of_visit_leaf met) covers rfl]
    · obtain ⟨next, met, covers⟩ := covers.visit_inner
      rw [walkFrom_eq, met]
      simp [ih _ (left ▸ unvisited_lt_of_visit_inner met) covers rfl, shown_inner]

theorem exists_covers_of_complete {found : Array (UInt32 × Leaf)}
    (complete : (side.walkFrom cursor found).ending = .complete) :
    ∃ forest, side.Covers cursor forest := by
  fun_induction walkFrom side cursor found with
  | case1 cursor found index node next met ih =>
    obtain ⟨forest, covers⟩ := ih complete
    exact ⟨_, covers_leaf_iff.2 ⟨next, met, covers⟩⟩
  | case2 cursor found next met ih =>
    obtain ⟨forest, covers⟩ := ih complete
    exact covers.of_visit_inner met
  | case3 cursor found met => exact ⟨[], covers_nil_iff.2 (visit_eq_finished_iff.1 met)⟩
  | case4 cursor found cause met => cases complete

theorem start_covers_iff {forest : List SlotTree} (entered : side.header.leafCount ≠ 0) :
    side.Covers side.start forest ↔ ∃ tree, forest = [tree] ∧ tree.Spans side := by
  constructor
  · rintro ⟨roots, fits, distinct, -, leaf_count⟩
    simp only [start, if_neg entered] at roots leaf_count
    obtain ⟨tree, later, rfl, root_eq, none_later⟩ := List.map_eq_cons_iff.1 roots.symm
    obtain rfl := List.map_eq_nil_iff.1 none_later
    exact ⟨tree, rfl, root_eq, fits tree (by simp), by simpa using distinct,
      by simpa using leaf_count⟩
  · rintro ⟨tree, rfl, root_eq, fits, distinct, leaf_count⟩
    constructor
    · simp [start, entered, root_eq]
    · simpa using fits
    · simpa using distinct
    · intro index member
      have inside := fits.slots_lt index (by simpa using member)
      simp [Cursor.isFresh_eq_true_iff, start, inside]
    · simpa [start] using leaf_count

/-- A side that a tree spans has that tree before it at the start. -/
theorem start_covers {tree : SlotTree} (spans : tree.Spans side) :
    side.Covers side.start [tree] := by
  have entered : side.header.leafCount ≠ 0 := by
    intro empty
    have none_left := spans.leaf_count
    rw [empty] at none_left
    exact tree.leaves_ne_nil (List.length_eq_zero_iff.1 none_left)
  exact (start_covers_iff entered).2 ⟨tree, rfl, spans⟩

/-- A side that a tree spans is walked to the end, and the walk meets the leaves of the tree. -/
theorem walk_of_spans {tree : SlotTree} (spans : tree.Spans side) :
    side.walk = ⟨(tree.shown side.orderSide).toArray, .complete⟩ := by
  rw [walk, walkFrom_of_covers (start_covers spans)]
  simp

theorem exists_spans_of_complete (entered : side.header.leafCount ≠ 0)
    (complete : side.walk.ending = .complete) : ∃ tree : SlotTree, tree.Spans side := by
  obtain ⟨forest, covers⟩ := exists_covers_of_complete complete
  obtain ⟨tree, -, spans⟩ := (start_covers_iff entered).1 covers
  exact ⟨tree, spans⟩

theorem walk_of_leafCount_eq_zero (empty : side.header.leafCount = 0) :
    side.walk = ⟨#[], .complete⟩ := by
  have finished : side.visit side.start = .finished :=
    visit_eq_finished_iff.2 (by simp [start, empty])
  rw [walk, walkFrom_eq, finished]

/-- A walk that ends normally has met as many leaves as the header counts. -/
theorem size_leaves_of_complete (complete : side.walk.ending = .complete) :
    side.walk.leaves.size = side.header.leafCount.toNat := by
  by_cases empty : side.header.leafCount = 0
  · rw [walk_of_leafCount_eq_zero empty, empty]
    rfl
  · obtain ⟨tree, spans⟩ := exists_spans_of_complete empty complete
    rw [walk_of_spans spans, List.size_toArray, (tree.shown_perm side.orderSide).length_eq]
    exact spans.leaf_count

theorem orders_of_spans {tree : SlotTree} (spans : tree.Spans side) :
    side.orders = .ok ((tree.shown side.orderSide).map fun found =>
      .ofLeaf side.market side.orderSide found.2) := by
  rw [orders_eq_ok_iff, walk_of_spans spans]
  exact ⟨rfl, rfl⟩

theorem first?_of_spans {tree : SlotTree} (spans : tree.Spans side) :
    side.first? = .ok (tree.shown side.orderSide).head? := by
  have walked := walk_of_spans spans
  unfold walk at walked
  rw [first?, firstFrom_eq, walked]
  cases tree.shown side.orderSide <;> rfl

/-- The full iteration accepts exactly the sides that a tree spans, and its orders then show the
leaves of that tree, one order each leaf.  A side without leaves has no orders, whatever its slots
hold. -/
theorem orders_ok_iff_spanned (side : BookSide) :
    (side.header.leafCount = 0 → side.orders = .ok []) ∧
      (side.header.leafCount ≠ 0 →
        ((∃ orders, side.orders = .ok orders) ↔ ∃ tree : SlotTree, tree.Spans side)) ∧
      ∀ tree : SlotTree, tree.Spans side → ∃ orders, side.orders = .ok orders ∧
        side.ShowsAll (tree.shown side.kind.orderSide) orders := by
  refine ⟨?_, ?_, fun tree spans => ⟨_, orders_of_spans spans, side.showsAll_map _⟩⟩
  · intro empty
    rw [orders_eq_ok_iff, walk_of_leafCount_eq_zero empty]
    exact ⟨rfl, rfl⟩
  · intro entered
    constructor
    · rintro ⟨orders, success⟩
      exact exists_spans_of_complete entered (orders_eq_ok_iff.1 success).1
    · rintro ⟨tree, spans⟩
      exact ⟨_, orders_of_spans spans⟩

end BookSide
end SlabBook

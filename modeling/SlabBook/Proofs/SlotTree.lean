import SlabBook.Proofs.Walk

/-!
# Trees of slots

A binary tree whose nodes lie in the slots of a slab, as an object of its own: it does not know
cursors, pending slots or visited marks.  `Fits` says that a slab holds the tree, `Spans` that the
tree is the whole of a side.
-/

namespace SlabBook

inductive SlotTree where
  | leaf (index : UInt32) (node : Leaf)
  | inner (index : UInt32) (node : Inner) (lesser greater : SlotTree)
  deriving DecidableEq, Repr

namespace SlotTree

def root : SlotTree → UInt32
  | leaf index _ => index
  | inner index _ _ _ => index

/-- Every slot of the tree, an inner node before those below it. -/
def slots : SlotTree → List UInt32
  | leaf index _ => [index]
  | inner index _ lesser greater => index :: (lesser.slots ++ greater.slots)

/-- The leaves with their slots, those of the lesser child first. -/
def leaves : SlotTree → List (UInt32 × Leaf)
  | leaf index node => [(index, node)]
  | inner _ _ lesser greater => lesser.leaves ++ greater.leaves

/-- The leaves in the order in which a side shows them: from the greater child for bids. -/
def shown (tree : SlotTree) : OrderSide → List (UInt32 × Leaf)
  | .buy => tree.leaves.reverse
  | .sell => tree.leaves

/-- Each node is the one that its slot holds, and below an inner node hang its two children. -/
def Fits (side : BookSide) : SlotTree → Prop
  | leaf index node => side.Holds index (.leaf node)
  | inner index node lesser greater =>
    side.Holds index (.inner node) ∧
      (node.lesser = lesser.root ∧ lesser.Fits side) ∧
      (node.greater = greater.root ∧ greater.Fits side)

/-- The tree hangs from the root of the side, uses no slot twice and has as many leaves as the
header says. -/
structure Spans (side : BookSide) (tree : SlotTree) : Prop where
  root_eq : tree.root = side.header.rootNode
  fits : tree.Fits side
  distinct : tree.slots.Nodup
  leaf_count : tree.leaves.length = side.header.leafCount.toNat

@[simp] theorem shown_leaf (index : UInt32) (node : Leaf) (side : OrderSide) :
    (leaf index node).shown side = [(index, node)] := by
  cases side <;> rfl

theorem shown_perm (tree : SlotTree) (side : OrderSide) : (tree.shown side).Perm tree.leaves := by
  cases side with
  | buy => exact List.reverse_perm _
  | sell => exact List.Perm.refl _

theorem leaves_ne_nil (tree : SlotTree) : tree.leaves ≠ [] := by
  induction tree with
  | leaf index node => simp [leaves]
  | inner index node lesser greater lesser_ne _ => simp [leaves, lesser_ne]

theorem shown_ne_nil (tree : SlotTree) (side : OrderSide) : tree.shown side ≠ [] := fun none =>
  tree.leaves_ne_nil (List.perm_nil.1 (none ▸ (tree.shown_perm side).symm))

theorem root_mem_slots (tree : SlotTree) : tree.root ∈ tree.slots := by
  cases tree <;> simp [root, slots]

theorem Fits.slots_lt {side : BookSide} {tree : SlotTree} (fits : tree.Fits side) :
    ∀ index ∈ tree.slots, index.toNat < side.nodes.size := by
  induction tree with
  | leaf index node =>
    intro queried member
    rw [slots, List.mem_singleton] at member
    exact member ▸ BookSide.Holds.index_lt fits
  | inner index node lesser greater lesser_lt greater_lt =>
    obtain ⟨held, ⟨-, lesser_fits⟩, -, greater_fits⟩ := fits
    intro queried member
    rw [slots, List.mem_cons, List.mem_append] at member
    rcases member with rfl | below | below
    · exact held.index_lt
    · exact lesser_lt lesser_fits queried below
    · exact greater_lt greater_fits queried below

end SlotTree
end SlabBook

import SlabBook.Book.Side

/-!
# Walking a slab

A walk visits slots from the root, one at a time, and keeps the slots still to visit in the order
in which it will come to them.  Below an inner node the greater keys come first for bids and the
lesser ones for asks, so the leaves come in display order and nothing is sorted.  A slot that is
out of range, met a second time or no part of a tree ends the walk, and so does a number of
leaves other than the header's.

`visit` is the one step.  The consumers differ in where they stop: `walk` runs to the end,
`glimpse` stops when one leaf more than its limit arrives, `first?` stops at the first leaf.
Each visit that goes on marks a slot that was fresh before, so all of them end.
-/

namespace SlabBook

/-- A walk between two visits: the slots still to visit, which slots are not visited yet, and how
many leaves were met. -/
structure Cursor where
  pending : List UInt32
  fresh : Array Bool
  reached : Nat
  deriving DecidableEq, Repr

inductive Visit where
  | leaf (index : UInt32) (node : Leaf) (next : Cursor)
  | inner (next : Cursor)
  | finished
  | corrupt (cause : Corruption)
  deriving DecidableEq, Repr

inductive Ending where
  | complete
  | stopped
  | corrupt (cause : Corruption)
  deriving DecidableEq, Repr

/-- The leaves that a walk met, each with its slot, and how the walk ended. -/
structure Walk where
  leaves : Array (UInt32 × Leaf)
  ending : Ending
  deriving DecidableEq, Repr

namespace Cursor

def isFresh (cursor : Cursor) (index : UInt32) : Bool := cursor.fresh.getD index.toNat false

def mark (cursor : Cursor) (index : UInt32) : Array Bool :=
  cursor.fresh.setIfInBounds index.toNat false

def unvisited (cursor : Cursor) : Nat := cursor.fresh.count true

theorem count_mark_lt {cursor : Cursor} {index : UInt32} (fresh : cursor.isFresh index = true) :
    (cursor.mark index).count true < cursor.unvisited := by
  unfold isFresh at fresh
  rw [Array.getD_eq_getD_getElem?] at fresh
  have inside : index.toNat < cursor.fresh.size := by
    by_cases inside : index.toNat < cursor.fresh.size
    · exact inside
    · simp [Array.getElem?_eq_none (Nat.le_of_not_lt inside)] at fresh
  have marked : cursor.fresh[index.toNat] = true := by
    simpa [Array.getElem?_eq_getElem inside] using fresh
  have positive : 0 < cursor.fresh.count true :=
    Array.count_pos_iff.2 (marked ▸ Array.getElem_mem inside)
  unfold mark unvisited
  rw [Array.setIfInBounds_def, dif_pos inside, Array.count_set inside]
  simp only [marked, beq_self_eq_true, if_true, Bool.false_eq_true, beq_iff_eq, if_false]
  omega

end Cursor

namespace BookSide

/-- The children of an inner node in the order in which they are visited. -/
def children (side : BookSide) (node : Inner) : List UInt32 :=
  match side.orderSide with
  | .buy => [node.greater, node.lesser]
  | .sell => [node.lesser, node.greater]

/-- A side without leaves is not entered, whatever its root says. -/
def start (side : BookSide) : Cursor where
  pending := if side.header.leafCount = 0 then [] else [side.header.rootNode]
  fresh := Array.replicate side.nodes.size true
  reached := 0

/-- The node in a slot that lies below the end of the slab and below the bump index. -/
def node? (side : BookSide) (index : UInt32) : Option Node :=
  if index.toNat < side.header.bumpIndex.toNat then side.nodes[index.toNat]? else none

def visit (side : BookSide) (cursor : Cursor) : Visit :=
  match cursor.pending with
  | [] =>
    if cursor.reached = side.header.leafCount.toNat then .finished
    else .corrupt (.leafCount cursor.reached side.header.leafCount)
  | index :: rest =>
    match side.node? index with
    | none => .corrupt (.outOfRange index)
    | some node =>
      if cursor.isFresh index then
        let fresh := cursor.mark index
        match node with
        | .leaf node => .leaf index node ⟨rest, fresh, cursor.reached + 1⟩
        | .inner node => .inner ⟨side.children node ++ rest, fresh, cursor.reached⟩
        | .free _ _ => .corrupt (.freeNode index)
        | .uninitialized => .corrupt (.uninitializedNode index)
        | .unknown tag => .corrupt (.unknownTag tag index)
      else .corrupt (.reachedTwice index)

theorem unvisited_lt_of_visit_leaf {side : BookSide} {cursor next : Cursor} {index : UInt32}
    {node : Leaf} (met : side.visit cursor = .leaf index node next) :
    next.unvisited < cursor.unvisited := by
  unfold visit at met
  split at met
  · split at met <;> cases met
  · split at met
    · cases met
    · split at met
      · rename_i fresh
        simp only at met
        split at met <;> cases met
        exact Cursor.count_mark_lt fresh
      · cases met

theorem unvisited_lt_of_visit_inner {side : BookSide} {cursor next : Cursor}
    (met : side.visit cursor = .inner next) : next.unvisited < cursor.unvisited := by
  unfold visit at met
  split at met
  · split at met <;> cases met
  · split at met
    · cases met
    · split at met
      · rename_i fresh
        simp only at met
        split at met <;> cases met
        exact Cursor.count_mark_lt fresh
      · cases met

def walkFrom (side : BookSide) (cursor : Cursor)
    (found : Array (UInt32 × Leaf)) : Walk :=
  match _met : side.visit cursor with
  | .leaf index node next => side.walkFrom next (found.push (index, node))
  | .inner next => side.walkFrom next found
  | .finished => ⟨found, .complete⟩
  | .corrupt cause => ⟨found, .corrupt cause⟩
termination_by cursor.unvisited
decreasing_by
  · exact unvisited_lt_of_visit_leaf ‹_›
  · exact unvisited_lt_of_visit_inner ‹_›

/-- All leaves. -/
def walk (side : BookSide) : Walk := side.walkFrom side.start #[]

def glimpseFrom (side : BookSide) (limit : Nat) (cursor : Cursor)
    (found : Array (UInt32 × Leaf)) : Walk :=
  match _met : side.visit cursor with
  | .leaf index node next =>
    if limit ≤ found.size then ⟨found, .stopped⟩
    else side.glimpseFrom limit next (found.push (index, node))
  | .inner next => side.glimpseFrom limit next found
  | .finished => ⟨found, .complete⟩
  | .corrupt cause => ⟨found, .corrupt cause⟩
termination_by cursor.unvisited
decreasing_by
  · exact unvisited_lt_of_visit_leaf ‹_›
  · exact unvisited_lt_of_visit_inner ‹_›

/-- At most `limit` leaves; the arrival of one more stops the walk. -/
def glimpse (side : BookSide) (limit : Nat) : Walk := side.glimpseFrom limit side.start #[]

def firstFrom (side : BookSide) (cursor : Cursor) :
    Except Corruption (Option (UInt32 × Leaf)) :=
  match _met : side.visit cursor with
  | .leaf index node _ => .ok (some (index, node))
  | .inner next => side.firstFrom next
  | .finished => .ok none
  | .corrupt cause => .error cause
termination_by cursor.unvisited
decreasing_by exact unvisited_lt_of_visit_inner ‹_›

/-- The first leaf, whatever comes after it. -/
def first? (side : BookSide) : Except Corruption (Option (UInt32 × Leaf)) :=
  side.firstFrom side.start

end BookSide
end SlabBook

import Mathlib.Data.List.Nodup
import Mathlib.Data.List.Perm.Subperm
import SlabBook.Proofs.Walk

/-!
# The passes of a walk

A walk is a loop that takes one slot off its stack in every pass.  `Reaches` follows the loop pass by
pass and counts, `Ends` says how it stops.  Slots may point anywhere, also back to where the walk has
been, so the stack is no measure; what bounds the loop is that every pass but the last marks a slot that
was not marked before.

* `Visited.mark` — what one pass adds to the slots that were visited;
* `Reaches.exists_visited` — all passes have visited slots of their own;
* `walk_bounded` — how many passes, leaves and pending slots there can be.
-/

namespace SlabBook.BookSide

variable {side : BookSide} {cursor next : Cursor} {found : Array (UInt32 × Leaf)}
  {passes inners : Nat}

/-- Before its next pass the loop stands with the cursor and has found the leaves.  It has made so many
passes, and so many of them met an inner node. -/
inductive Reaches (side : BookSide) :
    (passes inners : Nat) → Array (UInt32 × Leaf) → Cursor → Prop
  | start : Reaches side 0 0 #[] side.start
  | leaf {passes inners : Nat} {found : Array (UInt32 × Leaf)} {cursor next : Cursor}
      {index : UInt32} {node : Leaf} (reached : Reaches side passes inners found cursor)
      (met : side.visit cursor = .leaf index node next) :
      Reaches side (passes + 1) inners (found.push (index, node)) next
  | inner {passes inners : Nat} {found : Array (UInt32 × Leaf)} {cursor next : Cursor}
      (reached : Reaches side passes inners found cursor)
      (met : side.visit cursor = .inner next) :
      Reaches side (passes + 1) (inners + 1) found next

/-- The loop stops after so many passes, and the walk is what it leaves behind.  Without a pending slot
no further pass begins; a slot that is refused costs the pass that took it. -/
inductive Ends (side : BookSide) : (passes : Nat) → Walk → Prop
  | finished {passes inners : Nat} {found : Array (UInt32 × Leaf)} {cursor : Cursor}
      (reached : Reaches side passes inners found cursor) (met : side.visit cursor = .finished) :
      Ends side passes ⟨found, .complete⟩
  | miscounted {passes inners : Nat} {found : Array (UInt32 × Leaf)} {cursor : Cursor}
      {cause : Corruption} (reached : Reaches side passes inners found cursor)
      (none_left : cursor.pending = []) (met : side.visit cursor = .corrupt cause) :
      Ends side passes ⟨found, .corrupt cause⟩
  | refused {passes inners : Nat} {found : Array (UInt32 × Leaf)} {cursor : Cursor}
      {cause : Corruption} (reached : Reaches side passes inners found cursor)
      (some_left : cursor.pending ≠ []) (met : side.visit cursor = .corrupt cause) :
      Ends side (passes + 1) ⟨found, .corrupt cause⟩

/-! ## The walk that is followed -/

/-- Wherever the loop stands, what is left of the walk starts there. -/
theorem Reaches.walk_eq (reached : side.Reaches passes inners found cursor) :
    side.walk = side.walkFrom cursor found := by
  induction reached with
  | start => rfl
  | leaf _ met ih => rw [ih, walkFrom_eq, met]
  | inner _ met ih => rw [ih, walkFrom_eq, met]

theorem Ends.eq_walk {walk : Walk} (ends : side.Ends passes walk) : walk = side.walk := by
  cases ends with
  | finished reached met => rw [reached.walk_eq, walkFrom_eq, met]
  | miscounted reached _ met => rw [reached.walk_eq, walkFrom_eq, met]
  | refused reached _ met => rw [reached.walk_eq, walkFrom_eq, met]

theorem Reaches.exists_ends (reached : side.Reaches passes inners found cursor) :
    ∃ total, side.Ends total (side.walkFrom cursor found) := by
  fun_induction walkFrom side cursor found generalizing passes inners with
  | case1 cursor found index node next met ih => exact ih (reached.leaf met)
  | case2 cursor found next met ih => exact ih (reached.inner met)
  | case3 cursor found met => exact ⟨passes, .finished reached met⟩
  | case4 cursor found cause met =>
    by_cases none_left : cursor.pending = []
    · exact ⟨passes, .miscounted reached none_left met⟩
    · exact ⟨passes + 1, .refused reached none_left met⟩

/-! ## The slots that were visited -/

/-- The slots of which a walk can visit every one once. -/
def reach (side : BookSide) : Nat := min side.nodes.size side.header.bumpIndex.toNat

theorem Holds.lt_reach {index : UInt32} {node : Node} (held : side.Holds index node) :
    index.toNat < side.reach :=
  Nat.lt_min.2 ⟨held.index_lt, held.1⟩

/-- The slots visited by so many passes: all different, within reach and marked.  The leaves were found
in some of them, in the same order. -/
structure Visited (side : BookSide) (passes : Nat) (found : Array (UInt32 × Leaf)) (cursor : Cursor)
    (slots : List UInt32) : Prop where
  count : slots.length = passes
  distinct : slots.Nodup
  within : ∀ index ∈ slots, index.toNat < side.reach
  marked : ∀ index ∈ slots, cursor.isFresh index = false
  shown : (found.toList.map Prod.fst).Sublist slots
  held : ∀ entry ∈ found, side.Holds entry.1 (.leaf entry.2)

/-- A pass adds the slot that it marks, and at most that one as a leaf. -/
theorem Visited.mark {slots : List UInt32} {index : UInt32} {node : Node}
    {found_after : Array (UInt32 × Leaf)} {pending : List UInt32} {reached : Nat}
    (visited : side.Visited passes found cursor slots) (held : side.Holds index node)
    (fresh : cursor.isFresh index = true)
    (shown : (found_after.toList.map Prod.fst).Sublist (slots ++ [index]))
    (held_after : ∀ entry ∈ found_after, side.Holds entry.1 (.leaf entry.2)) :
    side.Visited (passes + 1) found_after ⟨pending, cursor.mark index, reached⟩
      (slots ++ [index]) where
  count := by rw [List.length_append, visited.count, List.length_singleton]
  distinct := by
    have new : index ∉ slots := by
      intro earlier
      rw [visited.marked index earlier] at fresh
      cases fresh
    rw [← List.concat_eq_append]
    exact visited.distinct.concat new
  within := by
    intro queried member
    rcases List.mem_append.1 member with earlier | here
    · exact visited.within queried earlier
    · rw [List.mem_singleton.1 here]
      exact held.lt_reach
  marked := by
    intro queried member
    rw [Bool.eq_false_iff]
    intro still
    obtain ⟨other, fresh_before⟩ := Cursor.isFresh_mark.1 still
    rcases List.mem_append.1 member with earlier | here
    · rw [visited.marked queried earlier] at fresh_before
      cases fresh_before
    · exact other (List.mem_singleton.1 here)
  shown := shown
  held := held_after

/-- All passes have visited slots of their own. -/
theorem Reaches.exists_visited (reached : side.Reaches passes inners found cursor) :
    ∃ slots, side.Visited passes found cursor slots := by
  induction reached with
  | start => exact ⟨[], rfl, List.nodup_nil, by simp, by simp, by simp, by simp⟩
  | @leaf passes inners found cursor next index node _ met ih =>
    obtain ⟨slots, visited⟩ := ih
    obtain ⟨rest, -, held, fresh, rfl⟩ := visit_eq_leaf_iff.1 met
    refine ⟨slots ++ [index], visited.mark held fresh ?_ ?_⟩
    · rw [Array.toList_push, List.map_append]
      exact visited.shown.append (List.Sublist.refl _)
    · intro entry member
      rcases Array.mem_push.1 member with earlier | rfl
      · exact visited.held entry earlier
      · exact held
  | @inner passes inners found cursor next _ met ih =>
    obtain ⟨slots, visited⟩ := ih
    obtain ⟨index, node, rest, -, held, fresh, rfl⟩ := visit_eq_inner_iff.1 met
    exact ⟨slots ++ [index], visited.mark held fresh
      (visited.shown.trans (List.sublist_append_left slots [index])) visited.held⟩

/-- There are no more different slots within reach than that. -/
theorem Visited.passes_le {slots : List UInt32} (visited : side.Visited passes found cursor slots) :
    passes ≤ side.reach := by
  have distinct : (slots.map UInt32.toNat).Nodup :=
    visited.distinct.map fun _ _ equal => UInt32.toNat_inj.1 equal
  have within : slots.map UInt32.toNat ⊆ List.range side.reach := by
    intro number member
    obtain ⟨index, among, rfl⟩ := List.mem_map.1 member
    exact List.mem_range.2 (visited.within index among)
  have counted := (List.subperm_of_subset distinct within).length_le
  rwa [List.length_map, List.length_range, visited.count] at counted

/-! ## Bounds -/

theorem Reaches.passes_le (reached : side.Reaches passes inners found cursor) :
    passes ≤ side.reach := by
  obtain ⟨slots, visited⟩ := reached.exists_visited
  exact visited.passes_le

theorem Ends.passes_le {walk : Walk} (ends : side.Ends passes walk) : passes ≤ side.reach + 1 := by
  cases ends with
  | finished reached _ => exact Nat.le_succ_of_le reached.passes_le
  | miscounted reached _ _ => exact Nat.le_succ_of_le reached.passes_le
  | refused reached _ _ => exact Nat.succ_le_succ reached.passes_le

/-- A leaf makes the stack shorter by one, and an inner node longer by one. -/
theorem Reaches.pending_le (reached : side.Reaches passes inners found cursor) :
    cursor.pending.length ≤ inners + 1 := by
  induction reached with
  | start =>
    unfold BookSide.start
    split <;> simp
  | leaf _ met ih =>
    obtain ⟨rest, pending, -, -, rfl⟩ := visit_eq_leaf_iff.1 met
    rw [pending, List.length_cons] at ih
    exact Nat.le_of_succ_le ih
  | inner _ met ih =>
    obtain ⟨index, node, rest, pending, -, -, rfl⟩ := visit_eq_inner_iff.1 met
    have two : (side.children node).length = 2 := by
      unfold children
      split <;> rfl
    rw [pending, List.length_cons] at ih
    rw [List.length_append, two]
    omega

/-- The leaves found so far lie in slots of their own, and are no more than there are slots within
reach. -/
theorem Reaches.leaves (reached : side.Reaches passes inners found cursor) :
    (found.toList.map Prod.fst).Nodup ∧ found.size ≤ side.reach ∧
      ∀ entry ∈ found, side.Holds entry.1 (.leaf entry.2) := by
  obtain ⟨slots, visited⟩ := reached.exists_visited
  have fewer := visited.shown.length_le
  rw [List.length_map, Array.length_toList, visited.count] at fewer
  exact ⟨visited.distinct.sublist visited.shown, Nat.le_trans fewer visited.passes_le, visited.held⟩

/-- The same holds of all leaves of a walk, however it ends. -/
theorem walk_leaves (side : BookSide) :
    (side.walk.leaves.toList.map Prod.fst).Nodup ∧ side.walk.leaves.size ≤ side.reach ∧
      ∀ entry ∈ side.walk.leaves, side.Holds entry.1 (.leaf entry.2) := by
  obtain ⟨total, ends⟩ := (@Reaches.start side).exists_ends
  rw [← walk] at ends
  generalize side.walk = walk at ends ⊢
  cases ends with
  | finished reached _ => exact reached.leaves
  | miscounted reached _ _ => exact reached.leaves
  | refused reached _ _ => exact reached.leaves

/-- The walk of any side, whatever its slots point at, ends after at most one pass more than there are
slots both in the slab and below the bump index.  At every point of the loop the stack holds at most one
slot more than inner nodes were visited.  The leaves are no more than those slots, and each of them was
found in a slot of its own. -/
theorem walk_bounded (side : BookSide) :
    let bound := min side.nodes.size side.header.bumpIndex.toNat
    (∃ passes, side.Ends passes side.walk) ∧
      (∀ passes walk, side.Ends passes walk → walk = side.walk ∧ passes ≤ bound + 1) ∧
      (∀ passes inners found cursor, side.Reaches passes inners found cursor →
        passes ≤ bound ∧ cursor.pending.length ≤ inners + 1) ∧
      side.walk.leaves.size ≤ bound ∧ (side.walk.leaves.toList.map Prod.fst).Nodup ∧
      ∀ entry ∈ side.walk.leaves, side.Holds entry.1 (.leaf entry.2) := by
  obtain ⟨distinct, fewer, held⟩ := side.walk_leaves
  exact ⟨Reaches.start.exists_ends, fun passes walk ends => ⟨ends.eq_walk, ends.passes_le⟩,
    fun passes inners found cursor reached => ⟨reached.passes_le, reached.pending_le⟩, fewer,
    distinct, held⟩

end SlabBook.BookSide

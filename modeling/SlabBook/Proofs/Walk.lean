import SlabBook.Book.Order

/-!
# Walks

What one visit of a walk does, case by case, and what its consumers see of it.  A walk that has
met leaves before goes on as one that has not, so each consumer is a reading of the whole walk.
-/

namespace SlabBook

namespace Cursor

theorem isFresh_eq_true_iff {cursor : Cursor} {index : UInt32} :
    cursor.isFresh index = true ↔ cursor.fresh[index.toNat]? = some true := by
  unfold isFresh
  rw [Array.getD_eq_getD_getElem?]
  cases cursor.fresh[index.toNat]? <;> simp

/-- Marking a slot takes away its own freshness and no other. -/
theorem isFresh_mark {cursor : Cursor} {index queried : UInt32} {pending : List UInt32}
    {reached : Nat} :
    (Cursor.mk pending (cursor.mark index) reached).isFresh queried = true ↔
      queried ≠ index ∧ cursor.isFresh queried = true := by
  simp only [isFresh_eq_true_iff, mark, Array.getElem?_setIfInBounds]
  by_cases same : index = queried
  · subst same
    by_cases inside : index.toNat < cursor.fresh.size <;> simp [inside]
  · have distinct : index.toNat ≠ queried.toNat := fun equal => same (UInt32.toNat_inj.1 equal)
    simp [distinct, Ne.symm same]

end Cursor

namespace BookSide

/-- The slot lies in the slab and below the bump index, and holds the node. -/
def Holds (side : BookSide) (index : UInt32) (node : Node) : Prop :=
  index.toNat < side.header.bumpIndex.toNat ∧ side.nodes[index.toNat]? = some node

theorem node?_eq_some_iff {side : BookSide} {index : UInt32} {node : Node} :
    side.node? index = some node ↔ side.Holds index node := by
  unfold node? Holds
  by_cases below : index.toNat < side.header.bumpIndex.toNat
  · simp [below]
  · simp [below]

theorem Holds.index_lt {side : BookSide} {index : UInt32} {node : Node}
    (held : side.Holds index node) : index.toNat < side.nodes.size :=
  (Array.getElem?_eq_some_iff.1 held.2).1

variable {side : BookSide} {cursor next : Cursor}

/-! ## One visit -/

theorem visit_eq_finished_iff :
    side.visit cursor = .finished ↔
      cursor.pending = [] ∧ cursor.reached = side.header.leafCount.toNat := by
  unfold visit
  split
  next none_left =>
    split
    next equal => simp [none_left, equal]
    next unequal => simp [unequal]
  next index rest some_left =>
    split
    · simp [some_left]
    · split
      · split <;> simp [some_left]
      · simp [some_left]

theorem visit_eq_leaf_iff {index : UInt32} {node : Leaf} :
    side.visit cursor = .leaf index node next ↔
      ∃ rest, cursor.pending = index :: rest ∧ side.Holds index (.leaf node) ∧
        cursor.isFresh index = true ∧
        next = ⟨rest, cursor.mark index, cursor.reached + 1⟩ := by
  constructor
  · intro met
    unfold visit at met
    split at met
    · split at met <;> cases met
    next first rest pending =>
      split at met
      · cases met
      next found held =>
        split at met
        next fresh =>
          simp only at met
          split at met <;> cases met
          exact ⟨rest, pending, node?_eq_some_iff.1 held, fresh, rfl⟩
        · cases met
  · rintro ⟨rest, pending, held, fresh, rfl⟩
    unfold visit
    simp only [pending, node?_eq_some_iff.2 held, fresh, if_true]

theorem visit_eq_inner_iff :
    side.visit cursor = .inner next ↔
      ∃ index node rest, cursor.pending = index :: rest ∧ side.Holds index (.inner node) ∧
        cursor.isFresh index = true ∧
        next = ⟨side.children node ++ rest, cursor.mark index, cursor.reached⟩ := by
  constructor
  · intro met
    unfold visit at met
    split at met
    · split at met <;> cases met
    next first rest pending =>
      split at met
      · cases met
      next found held =>
        split at met
        next fresh =>
          simp only at met
          split at met <;> cases met
          exact ⟨first, _, rest, pending, node?_eq_some_iff.1 held, fresh, rfl⟩
        · cases met
  · rintro ⟨index, node, rest, pending, held, fresh, rfl⟩
    unfold visit
    simp only [pending, node?_eq_some_iff.2 held, fresh, if_true]

/-! ## Whole walks -/

/-- The walk as its visits go on, without the measure. -/
theorem walkFrom_eq (side : BookSide) (cursor : Cursor) (found : Array (UInt32 × Leaf)) :
    side.walkFrom cursor found =
      match side.visit cursor with
      | .leaf index node next => side.walkFrom next (found.push (index, node))
      | .inner next => side.walkFrom next found
      | .finished => ⟨found, .complete⟩
      | .corrupt cause => ⟨found, .corrupt cause⟩ := by
  rw [walkFrom]
  split <;> rename_i met <;> rw [met]

/-- Leaves met before stay in front and change nothing. -/
theorem walkFrom_found (side : BookSide) (cursor : Cursor) (found : Array (UInt32 × Leaf)) :
    side.walkFrom cursor found =
      ⟨found ++ (side.walkFrom cursor #[]).leaves, (side.walkFrom cursor #[]).ending⟩ := by
  induction left : cursor.unvisited using Nat.strongRecOn generalizing cursor found with
  | ind left ih =>
    rw [walkFrom_eq side cursor found, walkFrom_eq side cursor #[]]
    cases met : side.visit cursor with
    | leaf index node next =>
      have smaller := left ▸ unvisited_lt_of_visit_leaf met
      simp only [ih _ smaller next (found.push (index, node)) rfl,
        ih _ smaller next (#[].push (index, node)) rfl]
      simp
    | inner next =>
      exact ih _ (left ▸ unvisited_lt_of_visit_inner met) next found rfl
    | finished => simp
    | corrupt cause => simp

theorem walkFrom_ending_ne_stopped (side : BookSide) (cursor : Cursor)
    (found : Array (UInt32 × Leaf)) : (side.walkFrom cursor found).ending ≠ .stopped := by
  fun_induction walkFrom side cursor found with
  | case1 cursor found index node next met ih => exact ih
  | case2 cursor found next met ih => exact ih
  | case3 cursor found met => simp
  | case4 cursor found cause met => simp

theorem orders_eq_ok_iff {orders : List Order} :
    side.orders = .ok orders ↔
      side.walk.ending = .complete ∧ orders = side.walk.orders side := by
  have not_stopped := walkFrom_ending_ne_stopped side side.start #[]
  unfold BookSide.orders
  cases ended : side.walk.ending with
  | complete => simp [ended, eq_comm]
  | stopped => exact absurd ended not_stopped
  | corrupt cause => simp [ended]

theorem orders_eq_error_iff {cause : Corruption} :
    side.orders = .error cause ↔ side.walk.ending = .corrupt cause := by
  unfold BookSide.orders
  cases ended : side.walk.ending with
  | complete => simp [ended]
  | stopped => simp [ended]
  | corrupt met => simp [ended]

/-- The first leaf is that of the whole walk, even if the rest is damaged.  Without one, the walk
has failed or there was none to find. -/
theorem firstFrom_eq (side : BookSide) (cursor : Cursor) :
    side.firstFrom cursor =
      match (side.walkFrom cursor #[]).leaves[0]?, (side.walkFrom cursor #[]).ending with
      | some found, _ => .ok (some found)
      | none, .corrupt cause => .error cause
      | none, _ => .ok none := by
  fun_induction firstFrom side cursor with
  | case1 cursor index node next met =>
    have head : (#[(index, node)] ++ (side.walkFrom next #[]).leaves)[0]? = some (index, node) := by
      rw [Array.getElem?_append_left (by simp)]
      rfl
    rw [walkFrom_eq, met]
    simp only [List.push_toArray, List.nil_append, walkFrom_found side next #[(index, node)], head]
  | case2 cursor next met ih =>
    rw [ih, walkFrom_eq side cursor, met]
  | case3 cursor met =>
    rw [walkFrom_eq, met]
    rfl
  | case4 cursor cause met =>
    rw [walkFrom_eq, met]
    rfl

end BookSide
end SlabBook

import SlabBook.Proofs.Descriptions
import SlabBook.Proofs.Precedence

/-!
# Consumers that stop early

One walk has several consumers.  Some read all of it, some stop when one order more than they want
arrives, and one takes the first order and stops.  What comes later is then never met, so a consumer
knows of a defect only if it read as far as the defect.

* `glimpse_eq` — what is seen up to a limit is cut from the whole walk;
* `glimpse_seen`, `best_found`, `describe_written` — each consumer, told by the whole walk;
* `consumers_agree` — all of them.
-/

namespace SlabBook

namespace Walk

/-- What is seen of a walk that is stopped when one leaf more than the limit arrives. -/
def upTo (walk : Walk) (limit : Nat) : Walk :=
  if limit < walk.leaves.size then ⟨walk.leaves.take limit, .stopped⟩ else walk

theorem length_orders (walk : Walk) (side : BookSide) :
    (walk.orders side).length = walk.leaves.size := by
  simp [orders]

theorem orders_upTo (walk : Walk) (side : BookSide) (limit : Nat) :
    (walk.upTo limit).orders side = (walk.orders side).take limit := by
  unfold upTo
  split
  next more => simp [orders, List.map_take]
  next all =>
    have short : (walk.orders side).length ≤ limit := by
      rw [length_orders]
      exact Nat.le_of_not_lt all
    exact (List.take_of_length_le short).symm

end Walk

namespace BookSide

variable {side : BookSide} {limit : Nat}

/-! ## Stopping at a limit -/

/-- Only a consumer stops a walk. -/
theorem walk_ending_ne_stopped (side : BookSide) : side.walk.ending ≠ .stopped :=
  walkFrom_ending_ne_stopped side side.start #[]

theorem glimpseFrom_eq {cursor : Cursor} {found : Array (UInt32 × Leaf)}
    (within : found.size ≤ limit) :
    side.glimpseFrom limit cursor found = (side.walkFrom cursor found).upTo limit := by
  fun_induction glimpseFrom side limit cursor found with
  | case1 cursor found index node next met full =>
    -- the limit is reached, and this leaf is the one that is too many
    obtain rfl : found.size = limit := Nat.le_antisymm within full
    rw [walkFrom_eq, met]
    simp only [walkFrom_found side next (found.push (index, node))]
    rw [Walk.upTo, if_pos (by simp only [Array.size_append, Array.size_push]; omega)]
    simp [Array.take, Array.extract_append]
  | case2 cursor found index node next met room ih =>
    rw [ih (by rw [Array.size_push]; omega), walkFrom_eq side cursor, met]
  | case3 cursor found next met ih => rw [ih within, walkFrom_eq side cursor, met]
  | case4 cursor found met =>
    rw [walkFrom_eq, met, Walk.upTo, if_neg (Nat.not_lt.2 within)]
  | case5 cursor found cause met =>
    rw [walkFrom_eq, met, Walk.upTo, if_neg (Nat.not_lt.2 within)]

/-- A walk that is stopped after so many leaves shows the front of the whole walk. -/
theorem glimpse_eq (side : BookSide) (limit : Nat) : side.glimpse limit = side.walk.upTo limit :=
  glimpseFrom_eq (Nat.zero_le limit)

/-- What is seen by a consumer that stops when one order more than the limit arrives.  Without that
order it comes to the end of the walk, and to the defect there if there is one. -/
structure SeenUpTo (side : BookSide) (limit : Nat) (seen : Walk) : Prop where
  shown : seen.orders side = (side.walk.orders side).take limit
  stopped_iff : seen.ending = .stopped ↔ limit < (side.walk.orders side).length
  corrupt_iff : ∀ cause, seen.ending = .corrupt cause ↔
    side.walk.ending = .corrupt cause ∧ (side.walk.orders side).length ≤ limit

theorem glimpse_seen (side : BookSide) (limit : Nat) : side.SeenUpTo limit (side.glimpse limit) := by
  have length_eq := side.walk.length_orders side
  rw [glimpse_eq]
  refine ⟨Walk.orders_upTo .., ?_, fun cause => ?_⟩
  · rw [Walk.upTo, length_eq]
    split
    next more => simp [more]
    next all => simp [all, side.walk_ending_ne_stopped]
  · rw [Walk.upTo, length_eq]
    split
    next more => simp [Nat.not_le.2 more]
    next all => simp [Nat.le_of_not_lt all]

/-! ## Taking the first order -/

/-- The order that comes first: of any walk that meets one, however it ends.  Without one there was
none to meet, or the walk fails with its defect. -/
structure FoundFirst (side : BookSide) (best : Except Corruption (Option Order)) : Prop where
  some_iff : ∀ order, best = .ok (some order) ↔ (side.walk.orders side).head? = some order
  none_iff : best = .ok none ↔ side.header.leafCount = 0
  error_iff : ∀ cause, best = .error cause ↔
    side.walk.orders side = [] ∧ side.walk.ending = .corrupt cause

/-- A walk that meets no order and does not fail has none to meet. -/
theorem complete_and_nil_iff (side : BookSide) :
    side.walk.ending = .complete ∧ side.walk.orders side = [] ↔ side.header.leafCount = 0 := by
  constructor
  · rintro ⟨complete, none_met⟩
    have counted := size_leaves_of_complete complete
    rw [← side.walk.length_orders side, none_met] at counted
    exact UInt64.toNat_inj.1 counted.symm
  · intro empty
    rw [walk_of_leafCount_eq_zero empty]
    exact ⟨rfl, rfl⟩

/-- The best order, told by the whole walk. -/
theorem best_eq (side : BookSide) :
    side.best =
      match (side.walk.orders side).head?, side.walk.ending with
      | some order, _ => .ok (some order)
      | none, .corrupt cause => .error cause
      | none, _ => .ok none := by
  rw [best, first?, firstFrom_eq, ← walk]
  have head_eq : (side.walk.orders side).head? =
      (side.walk.leaves[0]?).map fun found => .ofLeaf side.market side.orderSide found.2 := by
    rw [Walk.orders, List.head?_map, List.head?_eq_getElem?, Array.getElem?_toList]
  rw [head_eq]
  cases side.walk.leaves[0]? with
  | some found => rfl
  | none => cases side.walk.ending <;> rfl

theorem best_found (side : BookSide) : side.FoundFirst side.best := by
  have empty_iff := side.complete_and_nil_iff
  rw [best_eq]
  cases met : side.walk.orders side with
  | cons first later =>
    exact
      { some_iff := by simp [met]
        none_iff := by simp [← empty_iff, met]
        error_iff := by simp [met] }
  | nil =>
    cases ended : side.walk.ending with
    | complete =>
      exact
        { some_iff := by simp [met]
          none_iff := by simp [← empty_iff, met, ended]
          error_iff := by simp [ended] }
    | stopped => exact absurd ended side.walk_ending_ne_stopped
    | corrupt cause =>
      exact
        { some_iff := by simp [met]
          none_iff := by simp [← empty_iff, ended]
          error_iff := by simp [met, ended] }

/-! ## Describing the first orders -/

/-- The lines of a description: the header, the first orders, and a mark if there are more. -/
def describedLines (side : BookSide) (depth : Nat) : List String :=
  let orders := side.walk.orders side
  side.headerLines ++ (orders.take depth).map Order.line ++
    if depth < orders.length then ["  ..."] else []

/-- What a description down to a depth comes to, unless the walk fails before it meets one order more.
Behind the header it has one line for each of the first orders, with the words of that order, and a mark
if there are more. -/
structure DescribedTo (side : BookSide) (depth : Nat) (description : Except Corruption String) :
    Prop where
  error_iff : ∀ cause, description = .error cause ↔
    side.walk.ending = .corrupt cause ∧ (side.walk.orders side).length ≤ depth
  ok_iff : ∀ text, description = .ok text ↔
    (side.walk.ending = .complete ∨ depth < (side.walk.orders side).length) ∧
      text = "\n".intercalate (side.describedLines depth)
  words : ∀ text, description = .ok text → (Text.lines text).map Text.words =
    side.heading ++ ((side.walk.orders side).take depth).map (fun order => "" :: "" :: order.words) ++
      if depth < (side.walk.orders side).length then [["", "", "..."]] else []

theorem describe_iff (side : BookSide) (depth : Nat) :
    (∀ cause, side.describe depth = .error cause ↔
      side.walk.ending = .corrupt cause ∧ (side.walk.orders side).length ≤ depth) ∧
    ∀ text, side.describe depth = .ok text ↔
      (side.walk.ending = .complete ∨ depth < (side.walk.orders side).length) ∧
        text = "\n".intercalate (side.describedLines depth) := by
  have seen := side.glimpse_seen depth
  unfold describe
  simp only [seen.shown]
  by_cases more : depth < (side.walk.orders side).length
  · rw [seen.stopped_iff.2 more]
    exact ⟨by simp [more], by simp [describedLines, more, eq_comm]⟩
  · have whole : side.glimpse depth = side.walk := by
      rw [glimpse_eq, Walk.upTo, ← side.walk.length_orders side, if_neg more]
    rw [whole]
    cases ended : side.walk.ending with
    | complete => exact ⟨by simp, by simp [describedLines, more, eq_comm]⟩
    | stopped => exact absurd ended side.walk_ending_ne_stopped
    | corrupt cause => exact ⟨by simp [Nat.le_of_not_lt more], by simp [more]⟩

theorem describe_written (side : BookSide) (depth : Nat) :
    side.DescribedTo depth (side.describe depth) := by
  obtain ⟨error_iff, ok_iff⟩ := side.describe_iff depth
  refine ⟨error_iff, ok_iff, fun text success => ?_⟩
  rw [((ok_iff text).1 success).2]
  exact side.words_described _ _

/-! ## All consumers -/

/-- The consumers of a walk agree.  What stops at a limit sees the orders of the whole walk up to there,
and a defect only if the walk fails without one order more.  The best order is the first of the whole
walk, whatever comes after it.  A description has the words of the first orders, and a mark that there
are more exactly if there are.  So the best order of a side that is decoded without a fault heads its
list. -/
theorem consumers_agree (side : BookSide) :
    (∀ limit, side.SeenUpTo limit (side.glimpse limit)) ∧
      side.FoundFirst side.best ∧
      (∀ depth, side.DescribedTo depth (side.describe depth)) ∧
      ∀ account kind market capacity listed,
        decode account market capacity = .ok side →
          decodeOrders account kind market capacity = .ok listed → side.best = .ok listed.head? := by
  refine ⟨side.glimpse_seen, side.best_found, side.describe_written, ?_⟩
  intro account kind market capacity listed decoded success
  obtain ⟨-, complete, rfl⟩ := ((decodeOrders_judged decoded).ok_iff listed).1 success
  rw [best_eq, complete]
  cases (side.walk.orders side).head? <;> rfl

end BookSide
end SlabBook

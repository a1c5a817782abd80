import Mathlib.Data.Finset.Card
import Mathlib.Data.Finset.Image
import SlabBook.Proofs.Layout
import SlabBook.Proofs.WalkTree

/-!
# The walk as a recursion

A walk keeps the slots that it has not come to yet on a stack.  The plain traversal has no stack: it
visits what hangs below one child completely, and then what hangs below the other.  A slab may point back
at itself; that the traversal ends all the same is due to the slots it has visited, which only become
more.

* `descend`, `traverse` — the traversal;
* `agreesBelow` — a walk with a slot on top of its stack does what descending into that slot does;
* `walk_eq_traverse` — whole walks.
-/

namespace SlabBook

/-- What a traversal carries from slot to slot: the slots that it has visited, the number of leaves
among them, and the leaves that it has given out. -/
structure Tour where
  visited : Finset UInt32
  counted : Nat
  given : Array (UInt32 × Leaf)

/-- What is left of a traversal that was broken off. -/
structure Halt where
  given : Array (UInt32 × Leaf)
  cause : Corruption

namespace BookSide

/-- The slots of the slab that were not visited. -/
def unseen (side : BookSide) (visited : Finset UInt32) : Finset Nat :=
  Finset.range side.nodes.size \ visited.image UInt32.toNat

theorem card_unseen_lt {side : BookSide} {index : UInt32} {visited later : Finset UInt32}
    {node : Node} (slot : side.nodes[index.toNat]? = some node) (new : index ∉ visited)
    (grown : insert index visited ⊆ later) : (side.unseen later).card < (side.unseen visited).card := by
  have inside : index.toNat < side.nodes.size := (Array.getElem?_eq_some_iff.1 slot).1
  obtain ⟨seen, kept⟩ := Finset.insert_subset_iff.1 grown
  refine Finset.card_lt_card ((Finset.ssubset_iff_of_subset ?_).2 ⟨index.toNat, ?_, ?_⟩)
  · exact Finset.sdiff_subset_sdiff (Finset.Subset.refl _) (Finset.image_subset_image kept)
  · refine Finset.mem_sdiff.2 ⟨Finset.mem_range.2 inside, fun member => ?_⟩
    obtain ⟨other, earlier, same⟩ := Finset.mem_image.1 member
    exact new (UInt32.toNat_inj.1 same ▸ earlier)
  · exact fun member => (Finset.mem_sdiff.1 member).2 (Finset.mem_image_of_mem _ seen)

/-- Descends into a slot.  The result carries the reason for which the recursion ends: slots that were
visited stay visited. -/
def descending (side : BookSide) (index : UInt32) (tour : Tour) :
    Except Halt {after : Tour // tour.visited ⊆ after.visited} :=
  match _slot : side.nodes[index.toNat]? with
  | none => throw ⟨tour.given, .outOfRange index⟩
  | some node =>
    if side.header.bumpIndex.toNat ≤ index.toNat then throw ⟨tour.given, .outOfRange index⟩
    else if _new : index ∈ tour.visited then throw ⟨tour.given, .reachedTwice index⟩
    else
      let here := { tour with visited := insert index tour.visited }
      have grown := Finset.subset_insert index tour.visited
      match node with
      | .leaf node =>
        return ⟨{ here with counted := tour.counted + 1, given := tour.given.push (index, node) }, grown⟩
      | .inner node =>
        match side.kind with
        | .bids => do
          let after ← side.descending node.greater here
          let last ← side.descending node.lesser after
          return ⟨last, grown.trans (after.2.trans last.2)⟩
        | .asks => do
          let after ← side.descending node.lesser here
          let last ← side.descending node.greater after
          return ⟨last, grown.trans (after.2.trans last.2)⟩
      | .free _ _ => throw ⟨tour.given, .freeNode index⟩
      | .uninitialized => throw ⟨tour.given, .uninitializedNode index⟩
      | .unknown tag => throw ⟨tour.given, .unknownTag tag index⟩
termination_by (side.unseen tour.visited).card
decreasing_by
  · exact card_unseen_lt ‹_› ‹_› (Finset.Subset.refl _)
  · exact card_unseen_lt ‹_› ‹_› after.2
  · exact card_unseen_lt ‹_› ‹_› (Finset.Subset.refl _)
  · exact card_unseen_lt ‹_› ‹_› after.2

/-- Visits a slot and all that hangs below it. -/
def descend (side : BookSide) (index : UInt32) (tour : Tour) : Except Halt Tour :=
  (side.descending index tour).map Subtype.val

/-- Visits the root and all that hangs below it, and compares the number of leaves with the header's. -/
def traverse (side : BookSide) : Walk :=
  match side.descend side.header.rootNode ⟨∅, 0, #[]⟩ with
  | .error halt => ⟨halt.given, .corrupt halt.cause⟩
  | .ok tour =>
    if tour.counted = side.header.leafCount.toNat then ⟨tour.given, .complete⟩
    else ⟨tour.given, .corrupt (.leafCount tour.counted side.header.leafCount)⟩

variable {side : BookSide} {cursor next : Cursor} {tour : Tour} {index : UInt32} {rest : List UInt32}
  {found : Array (UInt32 × Leaf)}

/-- One descent after the other gives the same with and without what the results carry. -/
theorem map_descending_bind (side : BookSide) (tour : Tour) (first second : UInt32)
    {visited : Finset UInt32} (grown : visited ⊆ tour.visited) :
    Except.map Subtype.val (do
      let after ← side.descending first tour
      let last ← side.descending second after
      return (⟨last, grown.trans (after.2.trans last.2)⟩ : {last : Tour // visited ⊆ last.visited})) =
    side.descend first tour >>= side.descend second := by
  unfold descend
  cases side.descending first tour with
  | error halt => rfl
  | ok after =>
    change Except.map _ (side.descending second after >>= _) =
      Except.map _ (side.descending second after)
    cases side.descending second after with
    | error halt => rfl
    | ok last => rfl

/-- The traversal as its recursion reads.  A slot is checked for its range, then for having been visited,
and only then for what it holds; an inner node of bids has its greater child visited completely before
the lesser one. -/
theorem descend_eq (side : BookSide) (index : UInt32) (tour : Tour) :
    side.descend index tour =
      match side.nodes[index.toNat]? with
      | none => .error ⟨tour.given, .outOfRange index⟩
      | some node =>
        if side.header.bumpIndex.toNat ≤ index.toNat then .error ⟨tour.given, .outOfRange index⟩
        else if index ∈ tour.visited then .error ⟨tour.given, .reachedTwice index⟩
        else
          let here := { tour with visited := insert index tour.visited }
          match node with
          | .leaf node => .ok
            { here with counted := tour.counted + 1, given := tour.given.push (index, node) }
          | .inner node =>
            match side.kind with
            | .bids => side.descend node.greater here >>= side.descend node.lesser
            | .asks => side.descend node.lesser here >>= side.descend node.greater
          | .free _ _ => .error ⟨tour.given, .freeNode index⟩
          | .uninitialized => .error ⟨tour.given, .uninitializedNode index⟩
          | .unknown tag => .error ⟨tour.given, .unknownTag tag index⟩ := by
  rw [descend, descending]
  split
  next slot =>
    rw [slot]
    rfl
  next node slot =>
    simp only [slot]
    by_cases beyond : side.header.bumpIndex.toNat ≤ index.toNat
    · simp only [if_pos beyond]
      rfl
    by_cases again : index ∈ tour.visited
    · simp only [if_neg beyond, dif_pos again, if_pos again]
      rfl
    simp only [if_neg beyond, dif_neg again, if_neg again]
    cases node with
    | leaf node => rfl
    | inner node =>
      have grown := Finset.subset_insert index tour.visited
      cases side.kind with
      | bids => exact map_descending_bind side _ node.greater node.lesser grown
      | asks => exact map_descending_bind side _ node.lesser node.greater grown
    | free next last => rfl
    | uninitialized => rfl
    | unknown tag => rfl

/-! ## A walk beside a traversal -/

/-- The walk has marked the slots that the traversal visited, and met as many leaves as it counted. -/
structure Follows (side : BookSide) (cursor : Cursor) (tour : Tour) : Prop where
  fresh_iff : ∀ index, cursor.isFresh index = true ↔
    index.toNat < side.nodes.size ∧ index ∉ tour.visited
  counted : cursor.reached = tour.counted

theorem follows_start (side : BookSide) : side.Follows side.start ⟨∅, 0, #[]⟩ where
  fresh_iff := by
    intro index
    simp [Cursor.isFresh_eq_true_iff, start, Array.getElem?_replicate]
  counted := rfl

theorem Follows.mark {reached counted : Nat} {given : Array (UInt32 × Leaf)}
    (follows : side.Follows cursor tour) (index : UInt32) (same : reached = counted) :
    side.Follows ⟨rest, cursor.mark index, reached⟩ ⟨insert index tour.visited, counted, given⟩ where
  fresh_iff := by
    intro queried
    rw [Cursor.isFresh_mark, follows.fresh_iff, Finset.mem_insert, not_or, and_left_comm]
  counted := same

/-- What a walk does with a slot on top of its stack, told by the result of descending into the slot:
it fails with the same leaves, or comes to the rest of the stack with what the descent carries back. -/
inductive Agrees (side : BookSide) (cursor : Cursor) (found : Array (UInt32 × Leaf))
    (rest : List UInt32) : Except Halt Tour → Prop
  | halted {halt : Halt}
      (walked : side.walkFrom cursor found = ⟨halt.given, .corrupt halt.cause⟩) :
      Agrees side cursor found rest (.error halt)
  | returned {tour : Tour} {next : Cursor} (pending : next.pending = rest)
      (follows : side.Follows next tour) (fewer : next.unvisited ≤ cursor.unvisited)
      (walked : side.walkFrom cursor found = side.walkFrom next tour.given) :
      Agrees side cursor found rest (.ok tour)

/-- What holds from a later point of a walk on holds from an earlier one. -/
theorem Agrees.earlier {given : Array (UInt32 × Leaf)} {outcome : Except Halt Tour}
    (agrees : side.Agrees next given rest outcome) (fewer : next.unvisited ≤ cursor.unvisited)
    (walked : side.walkFrom cursor found = side.walkFrom next given) :
    side.Agrees cursor found rest outcome := by
  cases agrees with
  | halted later => exact .halted (walked.trans later)
  | returned pending follows fewer_still later =>
    exact .returned pending follows (Nat.le_trans fewer_still fewer) (walked.trans later)

theorem Agrees.of_corrupt {cause : Corruption} (met : side.visit cursor = .corrupt cause) :
    side.Agrees cursor found rest (.error ⟨found, cause⟩) := by
  refine .halted ?_
  rw [walkFrom_eq, met]

/-! ## Slots that are refused -/

theorem agrees_of_not_holds (pending : cursor.pending = index :: rest)
    (none_held : ∀ node, ¬ side.Holds index node) :
    side.Agrees cursor tour.given rest (side.descend index tour) := by
  have missing : side.node? index = none := by
    rw [Option.eq_none_iff_forall_ne_some]
    exact fun node held => none_held node (node?_eq_some_iff.1 held)
  have met : side.visit cursor = .corrupt (.outOfRange index) := by
    simp only [visit, pending, missing]
  rw [descend_eq]
  cases slot : side.nodes[index.toNat]? with
  | none => exact .of_corrupt met
  | some node =>
    have beyond : side.header.bumpIndex.toNat ≤ index.toNat :=
      Nat.le_of_not_lt fun below => none_held node ⟨below, slot⟩
    simp only [if_pos beyond]
    exact .of_corrupt met

theorem agrees_of_visited {node : Node} (pending : cursor.pending = index :: rest)
    (follows : side.Follows cursor tour) (held : side.Holds index node)
    (again : index ∈ tour.visited) :
    side.Agrees cursor tour.given rest (side.descend index tour) := by
  have marked : ¬ cursor.isFresh index = true :=
    fun fresh => ((follows.fresh_iff index).1 fresh).2 again
  rw [descend_eq]
  simp only [held.2, if_neg (Nat.not_le.2 held.1), if_pos again]
  refine .of_corrupt ?_
  simp only [visit, pending, node?_eq_some_iff.2 held, if_neg marked]

/-! ## Slots that are entered -/

/-- Walks with fewer fresh slots than that agree with the traversal. -/
def AgreesBelow (side : BookSide) (bound : Nat) : Prop :=
  ∀ cursor tour index rest, cursor.unvisited < bound → cursor.pending = index :: rest →
    side.Follows cursor tour → side.Agrees cursor tour.given rest (side.descend index tour)

/-- At an inner node the walk puts two slots on its stack, and the traversal descends into one and then
into the other. -/
theorem AgreesBelow.inner {bound : Nat} {first second : UInt32} (below : side.AgreesBelow bound)
    (fewer : cursor.unvisited ≤ bound) (met : side.visit cursor = .inner next)
    (pending : next.pending = first :: second :: rest) (follows : side.Follows next tour) :
    side.Agrees cursor tour.given rest (side.descend first tour >>= side.descend second) := by
  have smaller := unvisited_lt_of_visit_inner met
  have walked : side.walkFrom cursor tour.given = side.walkFrom next tour.given := by
    rw [walkFrom_eq, met]
  have agrees := below next tour first _ (Nat.lt_of_lt_of_le smaller fewer) pending follows
  generalize side.descend first tour = outcome at agrees ⊢
  cases agrees with
  | halted later => exact .halted (walked.trans later)
  | @returned after between pending follows fewer_left later =>
    have agrees := below between after second rest (by omega) pending follows
    exact agrees.earlier (by omega) (walked.trans later)

theorem AgreesBelow.of_fresh {bound : Nat} {node : Node} (below : side.AgreesBelow bound)
    (fewer : cursor.unvisited ≤ bound) (pending : cursor.pending = index :: rest)
    (follows : side.Follows cursor tour) (held : side.Holds index node)
    (first_time : index ∉ tour.visited) :
    side.Agrees cursor tour.given rest (side.descend index tour) := by
  have found := node?_eq_some_iff.2 held
  have fresh : cursor.isFresh index = true :=
    (follows.fresh_iff index).2 ⟨held.index_lt, first_time⟩
  rw [descend_eq]
  simp only [held.2, if_neg (Nat.not_le.2 held.1), if_neg first_time]
  cases node with
  | leaf node =>
    have met := visit_eq_leaf_iff.2 ⟨rest, pending, held, fresh, rfl⟩
    have counted : cursor.reached + 1 = tour.counted + 1 := congrArg (· + 1) follows.counted
    refine .returned rfl (follows.mark index counted)
      (Nat.le_of_lt (unvisited_lt_of_visit_leaf met)) ?_
    rw [walkFrom_eq, met]
  | inner node =>
    have met := visit_eq_inner_iff.2 ⟨index, node, rest, pending, held, fresh, rfl⟩
    cases kind : side.kind with
    | bids =>
      have order : side.children node = [node.greater, node.lesser] := by
        simp [children, orderSide, kind, SideKind.orderSide]
      exact below.inner fewer met (by rw [order]; rfl) (follows.mark index follows.counted)
    | asks =>
      have order : side.children node = [node.lesser, node.greater] := by
        simp [children, orderSide, kind, SideKind.orderSide]
      exact below.inner fewer met (by rw [order]; rfl) (follows.mark index follows.counted)
  | free next last =>
    exact .of_corrupt (by simp only [visit, pending, found, fresh, if_true])
  | uninitialized =>
    exact .of_corrupt (by simp only [visit, pending, found, fresh, if_true])
  | unknown tag =>
    exact .of_corrupt (by simp only [visit, pending, found, fresh, if_true])

/-- With a slot on top of its stack the walk does what descending into that slot does.  The induction is
on the slots that are still fresh: below an inner node there is one fewer. -/
theorem agreesBelow (side : BookSide) (bound : Nat) : side.AgreesBelow bound := by
  induction bound with
  | zero => exact fun cursor tour index rest fewer => absurd fewer (Nat.not_lt_zero _)
  | succ bound ih =>
    intro cursor tour index rest fewer pending follows
    by_cases some_held : ∃ node, side.Holds index node
    · obtain ⟨node, held⟩ := some_held
      by_cases again : index ∈ tour.visited
      · exact agrees_of_visited pending follows held again
      · exact ih.of_fresh (Nat.le_of_lt_succ fewer) pending follows held again
    · exact agrees_of_not_holds pending (not_exists.1 some_held)

/-! ## Whole walks -/

theorem walkFrom_of_pending_eq_nil (none_left : cursor.pending = []) :
    side.walkFrom cursor found =
      if cursor.reached = side.header.leafCount.toNat then ⟨found, .complete⟩
      else ⟨found, .corrupt (.leafCount cursor.reached side.header.leafCount)⟩ := by
  rw [walkFrom_eq, visit, none_left]
  by_cases equal : cursor.reached = side.header.leafCount.toNat
  · simp only [if_pos equal]
  · simp only [if_neg equal]

/-- A walk that is entered meets what the traversal meets, in the same order, and ends as it does. -/
theorem walk_of_entered (entered : side.header.leafCount ≠ 0) : side.walk = side.traverse := by
  have pending : side.start.pending = [side.header.rootNode] := by simp [start, entered]
  have agrees := side.agreesBelow (side.start.unvisited + 1) side.start _ _ []
    (Nat.lt_succ_self _) pending side.follows_start
  rw [traverse, walk]
  generalize side.descend side.header.rootNode ⟨∅, 0, #[]⟩ = outcome at agrees ⊢
  cases agrees with
  | halted walked => exact walked
  | returned none_left follows _ walked =>
    rw [walked, walkFrom_of_pending_eq_nil none_left, follows.counted]

/-- Entered or not, the walk is told by the traversal: it meets the same leaves in the same order and
then ends normally or with the same defect.  A side whose header counts no leaves is not entered, and
its walk ends normally whatever its root says. -/
theorem walk_eq_traverse (side : BookSide) :
    side.walk = if side.header.leafCount = 0 then ⟨#[], .complete⟩ else side.traverse := by
  by_cases empty : side.header.leafCount = 0
  · rw [if_pos empty, walk_of_leafCount_eq_zero empty]
  · rw [if_neg empty, walk_of_entered empty]

/-- Asks that were never used: every byte but that of the side is zero. -/
def unusedAsks : Account where
  address := .fill 1
  data := (6 :: List.replicate 127 0).toArray

/-- The traversal would enter a side without leaves, and fail at its root. -/
theorem traverse_unusedAsks :
    ∃ side, decode unusedAsks ⟨9, 6, 1, 1⟩ (.whole 1) = .ok side ∧
      side.walk = ⟨#[], .complete⟩ ∧ side.traverse = ⟨#[], .corrupt (.outOfRange 0)⟩ := by
  let header : Header := ⟨⟨6, 0, false, .replicate 5 0⟩, 0, 0, 0, 0, 0⟩
  have decoded : decode unusedAsks ⟨9, 6, 1, 1⟩ (.whole 1) =
      .ok ⟨.fill 1, ⟨9, 6, 1, 1⟩, header, #[.uninitialized]⟩ := by
    refine decode_eq_ok_iff.2 ⟨1, rfl, by decide +kernel, by decide +kernel, rfl, ?_, rfl, rfl⟩
    intro slot inside
    obtain rfl := Nat.lt_one_iff.1 inside
    decide +kernel
  refine ⟨_, decoded, walk_of_leafCount_eq_zero rfl, ?_⟩
  rw [traverse, descend_eq]
  rfl

end BookSide
end SlabBook

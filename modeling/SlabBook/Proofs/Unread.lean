import SlabBook.Proofs.DisplayOrder
import SlabBook.Proofs.Passes

/-!
# What a walk does not read

A walk reads four fields of a header and, of a slot that it visits, the tag, the children of an inner
node and what an order shows of a leaf.  Two accounts in which these agree are walked alike, whatever
else is in them.

* `Node.alike_of_sameRead` — bytes that are read alike hold nodes that no walk tells apart;
* `Visits`, `Visits.mem_slots` — the slots that a walk comes to, and where they lie in a tree;
* `sameVisit`, `walkFrom_alike` — one pass, and two walks in lock step;
* `unread_irrelevant` — two accounts of which only unread bytes differ.
-/

namespace SlabBook

/-! ## Nodes that are read alike -/

/-- Two leaves of which every market sees the same order. -/
def Leaf.Alike (first second : Leaf) : Prop :=
  ∀ market side, Order.ofLeaf market side first = Order.ofLeaf market side second

/-- Two nodes that a walk cannot tell apart. -/
inductive Node.Alike : Node → Node → Prop
  | uninitialized : Alike .uninitialized .uninitialized
  | inner {first second : Inner} (lesser : first.lesser = second.lesser)
      (greater : first.greater = second.greater) : Alike (.inner first) (.inner second)
  | leaf {first second : Leaf} (shown : first.Alike second) : Alike (.leaf first) (.leaf second)
  | free {next next_too : UInt32} {last last_too : Bool} :
      Alike (.free next last) (.free next_too last_too)
  | unknown (tag : UInt32) : Alike (.unknown tag) (.unknown tag)

theorem Node.Alike.refl (node : Node) : node.Alike node := by
  cases node with
  | uninitialized => exact .uninitialized
  | inner node => exact .inner rfl rfl
  | leaf node => exact .leaf fun _ _ => rfl
  | free next last => exact .free
  | unknown tag => exact .unknown tag

namespace Bytes

/-- Two buffers name the same two children of an inner node at an offset. -/
def SameChildren (first second : Bytes) (base : Int) : Prop :=
  first.word32? (base + 24) = second.word32? (base + 24) ∧
    first.word32? (base + 28) = second.word32? (base + 28)

/-- Two buffers have the same order in a leaf at an offset: its type, its id, its owner, its quantity,
its client's id and its time. -/
def SameShown (first second : Bytes) (base : Int) : Prop :=
  (first.byte? (base + 5)).map OrderType.ofCode = (second.byte? (base + 5)).map OrderType.ofCode ∧
    Node.key? first (base + 8) = Node.key? second (base + 8) ∧
    Node.address? first (base + 24) = Node.address? second (base + 24) ∧
    first.signed64? (base + 56) = second.signed64? (base + 56) ∧
    first.word64? (base + 64) = second.word64? (base + 64) ∧
    first.word64? (base + 80) = second.word64? (base + 80)

/-- At an offset two buffers have the same tag, behind the tag of an inner node the same children, and
behind that of a leaf the same order. -/
structure SameRead (first second : Bytes) (base : Int) : Prop where
  tag : first.word32? base = second.word32? base
  inner : first.word32? base = some 1 → first.SameChildren second base
  leaf : first.word32? base = some 2 → first.SameShown second base

instance (first second : Bytes) (base : Int) : Decidable (first.SameChildren second base) :=
  inferInstanceAs (Decidable (_ ∧ _))

instance (first second : Bytes) (base : Int) : Decidable (first.SameShown second base) :=
  inferInstanceAs (Decidable (_ ∧ _))

instance (first second : Bytes) (base : Int) : Decidable (first.SameRead second base) :=
  decidable_of_iff
    (first.word32? base = second.word32? base ∧
      (first.word32? base = some 1 → first.SameChildren second base) ∧
      (first.word32? base = some 2 → first.SameShown second base))
    ⟨fun ⟨tag, inner, leaf⟩ => ⟨tag, inner, leaf⟩, fun same => ⟨same.tag, same.inner, same.leaf⟩⟩

end Bytes

namespace Node

variable {data other : Bytes} {base : Int}

/-- The children of an inner node stand at their places. -/
theorem children_of_inner? {node : Inner} (read : inner? data base = some node) :
    data.word32? (base + 24) = some node.lesser ∧ data.word32? (base + 28) = some node.greater := by
  simp only [inner?, bind, Option.bind_eq_some_iff, pure, Option.some.injEq] at read
  obtain ⟨_, _, _, _, lesser, first, greater, second, _, _, _, _, rfl⟩ := read
  exact ⟨first, second⟩

/-- What an order shows of a leaf stands at its place. -/
theorem shown_of_leaf? {node : Leaf} (read : leaf? data base = some node) :
    data.byte? (base + 5) = some node.orderType ∧ key? data (base + 8) = some node.key ∧
      address? data (base + 24) = some node.owner ∧
      data.signed64? (base + 56) = some node.quantity ∧
      data.word64? (base + 64) = some node.clientOrderId ∧
      data.word64? (base + 80) = some node.timestamp := by
  obtain ⟨low, high⟩ := isSome_leaf?.1 (Option.isSome_of_eq_some read)
  have owner : address? data (base + 24) = some (address data (base + 24)) :=
    address?_eq_some (by omega) (by omega)
  simp only [leaf?, bind, Option.bind_eq_some_iff, pure, Option.some.injEq] at read
  obtain ⟨_, _, _, type, _, _, _, _, _, key, _, quantity, _, client, _, _, _, time, rfl⟩ := read
  exact ⟨type, key, owner, quantity, client, time⟩

theorem inner_alike {first second : Inner} (same : data.SameChildren other base)
    (read : inner? data base = some first) (read_too : inner? other base = some second) :
    (inner first).Alike (inner second) := by
  obtain ⟨lesser, greater⟩ := same
  obtain ⟨lesser_here, greater_here⟩ := children_of_inner? read
  obtain ⟨lesser_there, greater_there⟩ := children_of_inner? read_too
  rw [lesser_here, lesser_there] at lesser
  rw [greater_here, greater_there] at greater
  exact .inner (Option.some.inj lesser) (Option.some.inj greater)

theorem leaf_alike {first second : Leaf} (same : data.SameShown other base)
    (read : leaf? data base = some first) (read_too : leaf? other base = some second) :
    (leaf first).Alike (leaf second) := by
  unfold Bytes.SameShown at same
  obtain ⟨type, key, owner, quantity, client, time⟩ := shown_of_leaf? read
  obtain ⟨type_too, key_too, owner_too, quantity_too, client_too, time_too⟩ :=
    shown_of_leaf? read_too
  rw [type, key, owner, quantity, client, time, type_too, key_too, owner_too, quantity_too,
    client_too, time_too] at same
  simp only [Option.map_some, Option.some.injEq] at same
  obtain ⟨type, key, owner, quantity, client, time⟩ := same
  refine .leaf fun market side => ?_
  simp only [Order.ofLeaf, type, key, owner, quantity, client, time]

theorem alike_of_sameRead {first second : Node} (same : data.SameRead other base)
    (read : read? data base = some first) (read_too : read? other base = some second) :
    first.Alike second := by
  simp only [read?, bind, Option.bind_eq_some_iff] at read read_too
  obtain ⟨tag, tagged, named⟩ := read
  obtain ⟨tag_too, tagged_too, named_too⟩ := read_too
  obtain rfl : tag = tag_too :=
    Option.some.inj (tagged.symm.trans (same.tag.trans tagged_too))
  split at named
  · cases named
    cases named_too
    exact .uninitialized
  · obtain ⟨inner, here, ⟨⟩⟩ := Option.bind_eq_some_iff.1 named
    obtain ⟨inner_too, there, ⟨⟩⟩ := Option.bind_eq_some_iff.1 named_too
    exact inner_alike (same.inner tagged) here there
  · obtain ⟨leaf, here, ⟨⟩⟩ := Option.bind_eq_some_iff.1 named
    obtain ⟨leaf_too, there, ⟨⟩⟩ := Option.bind_eq_some_iff.1 named_too
    exact leaf_alike (same.leaf tagged) here there
  · obtain ⟨next, -, ⟨⟩⟩ := Option.bind_eq_some_iff.1 named
    obtain ⟨next_too, -, ⟨⟩⟩ := Option.bind_eq_some_iff.1 named_too
    exact .free
  · obtain ⟨next, -, ⟨⟩⟩ := Option.bind_eq_some_iff.1 named
    obtain ⟨next_too, -, ⟨⟩⟩ := Option.bind_eq_some_iff.1 named_too
    exact .free
  · cases named
    split at named_too
    case h_6 =>
      cases named_too
      exact .unknown tag
    all_goals contradiction

end Node

namespace BookSide

variable {side twin : BookSide} {cursor : Cursor}

/-! ## The slots that are visited -/

/-- The walk comes to the slot, which lies in the slab and below the bump index. -/
def Visits (side : BookSide) (index : UInt32) : Prop :=
  ∃ passes inners found cursor rest node, side.Reaches passes inners found cursor ∧
    cursor.pending = index :: rest ∧ side.Holds index node

/-- A visit that goes on leaves no slot before the walk that was not there. -/
theorem Covers.next {next : Cursor} {forest : List SlotTree} (covers : side.Covers cursor forest)
    (goes : (∃ index node, side.visit cursor = .leaf index node next) ∨
      side.visit cursor = .inner next) :
    ∃ later, side.Covers next later ∧ later.flatMap SlotTree.slots ⊆ forest.flatMap SlotTree.slots := by
  rcases forest with _ | ⟨⟨index, node⟩ | ⟨index, node, lesser, greater⟩, later⟩
  · have finished := visit_eq_finished_iff.2 (covers_nil_iff.1 covers)
    simp [finished] at goes
  · obtain ⟨after, met, covers⟩ := covers_leaf_iff.1 covers
    simp only [met, Visit.leaf.injEq, reduceCtorEq, or_false] at goes
    obtain ⟨_, _, _, _, rfl⟩ := goes
    exact ⟨later, covers, List.subset_append_right _ _⟩
  · obtain ⟨after, met, covers⟩ := covers.visit_inner
    simp only [met, Visit.inner.injEq, reduceCtorEq, exists_false, false_or] at goes
    subst goes
    refine ⟨_, covers, fun slot member => ?_⟩
    have below := (flatMap_subtrees_perm side SlotTree.slots lesser greater later).mem_iff.1 member
    exact List.mem_cons_of_mem index below

/-- The walk of a side that a tree spans comes to no slot outside the tree. -/
theorem Visits.mem_slots {index : UInt32} {tree : SlotTree} (visits : side.Visits index)
    (spans : tree.Spans side) : index ∈ tree.slots := by
  obtain ⟨passes, inners, found, cursor, rest, node, reached, pending, -⟩ := visits
  have within : ∃ forest, side.Covers cursor forest ∧
      forest.flatMap SlotTree.slots ⊆ tree.slots := by
    clear pending
    induction reached with
    | start => exact ⟨[tree], start_covers spans, by simp⟩
    | leaf _ met ih =>
      obtain ⟨forest, covers, within⟩ := ih
      obtain ⟨later, covers, fewer⟩ := covers.next (.inl ⟨_, _, met⟩)
      exact ⟨later, covers, List.Subset.trans fewer within⟩
    | inner _ met ih =>
      obtain ⟨forest, covers, within⟩ := ih
      obtain ⟨later, covers, fewer⟩ := covers.next (.inr met)
      exact ⟨later, covers, List.Subset.trans fewer within⟩
  obtain ⟨forest, covers, within⟩ := within
  obtain ⟨first, later, rfl, root_eq, -⟩ := List.map_eq_cons_iff.1 (covers.roots.symm.trans pending)
  exact within (List.mem_append_left _ (root_eq ▸ first.root_mem_slots))

/-! ## Sides that are walked alike -/

/-- The two sides have the same kind, as many slots, and the same in what a walk reads of a header. -/
structure SameFrame (side twin : BookSide) : Prop where
  kind : twin.kind = side.kind
  market : twin.market = side.market
  slots : twin.nodes.size = side.nodes.size
  rootNode : twin.header.rootNode = side.header.rootNode
  leafCount : twin.header.leafCount = side.header.leafCount
  bumpIndex : twin.header.bumpIndex = side.header.bumpIndex

/-- Where the walk of the first side comes to a slot, the second one holds a node in it that no walk
tells apart from that of the first. -/
def AlikeVisited (side twin : BookSide) : Prop :=
  ∀ index node, side.Visits index → side.Holds index node →
    ∃ node_too, twin.nodes[index.toNat]? = some node_too ∧ node.Alike node_too

/-- Two visits that come to the same, up to what is not shown of a leaf. -/
inductive SameVisit : Visit → Visit → Prop
  | leaf {index : UInt32} {first second : Leaf} {next : Cursor} (shown : first.Alike second) :
      SameVisit (.leaf index first next) (.leaf index second next)
  | inner {next : Cursor} : SameVisit (.inner next) (.inner next)
  | finished : SameVisit .finished .finished
  | corrupt {cause : Corruption} : SameVisit (.corrupt cause) (.corrupt cause)

theorem SameFrame.children (frame : side.SameFrame twin) {first second : Inner}
    (lesser : first.lesser = second.lesser) (greater : first.greater = second.greater) :
    twin.children second = side.children first := by
  simp only [BookSide.children, orderSide, frame.kind, lesser, greater]

theorem SameFrame.node?_eq_none (frame : side.SameFrame twin) {index : UInt32}
    (missing : side.node? index = none) : twin.node? index = none := by
  unfold node? at missing ⊢
  rw [frame.bumpIndex]
  split at missing
  next below =>
    rw [if_pos below, Array.getElem?_eq_none]
    exact frame.slots ▸ Array.getElem?_eq_none_iff.1 missing
  next beyond => rw [if_neg beyond]

/-- One pass over two slots that hold alike nodes. -/
theorem sameVisit (cursor : Cursor) (frame : side.SameFrame twin)
    (alike : ∀ index rest node, cursor.pending = index :: rest → side.Holds index node →
      ∃ node_too, twin.nodes[index.toNat]? = some node_too ∧ node.Alike node_too) :
    SameVisit (side.visit cursor) (twin.visit cursor) := by
  unfold visit
  cases pending : cursor.pending with
  | nil =>
    simp only [frame.leafCount]
    split
    · exact .finished
    · exact .corrupt
  | cons index rest =>
    cases held : side.node? index with
    | none =>
      simp only [held, frame.node?_eq_none held]
      exact .corrupt
    | some node =>
      obtain ⟨inside, slot⟩ := node?_eq_some_iff.1 held
      obtain ⟨node_too, slot_too, same⟩ := alike index rest node pending ⟨inside, slot⟩
      have held_too : twin.node? index = some node_too :=
        node?_eq_some_iff.2 ⟨frame.bumpIndex ▸ inside, slot_too⟩
      simp only [held, held_too]
      by_cases fresh : cursor.isFresh index = true
      · simp only [if_pos fresh]
        cases same with
        | uninitialized => exact .corrupt
        | inner lesser greater =>
          simp only [frame.children lesser greater]
          exact .inner
        | leaf shown => exact .leaf shown
        | free => exact .corrupt
        | unknown tag => exact .corrupt
      · simp only [if_neg fresh]
        exact .corrupt

/-- Two walks that have found alike leaves so far go on in lock step. -/
theorem walkFrom_alike (frame : side.SameFrame twin)
    (alike : side.AlikeVisited twin) {passes inners : Nat} {found found_too : Array (UInt32 × Leaf)}
    (reached : side.Reaches passes inners found cursor)
    (same : (Walk.mk found_too .complete).orders twin = (Walk.mk found .complete).orders side) :
    (twin.walkFrom cursor found_too).orders twin = (side.walkFrom cursor found).orders side ∧
      (twin.walkFrom cursor found_too).ending = (side.walkFrom cursor found).ending := by
  induction left : cursor.unvisited using Nat.strongRecOn
    generalizing cursor passes inners found found_too with
  | ind left ih =>
    have visits := sameVisit cursor frame fun index rest node pending held =>
      alike index node ⟨passes, inners, found, cursor, rest, node, reached, pending, held⟩ held
    rw [walkFrom_eq side, walkFrom_eq twin]
    generalize met : side.visit cursor = visit at visits
    generalize twin.visit cursor = visit_too at visits
    cases visits with
    | leaf shown =>
      refine ih _ (left ▸ unvisited_lt_of_visit_leaf met) (reached.leaf met) ?_ rfl
      simp only [Walk.orders, Array.toList_push, List.map_append, List.map_cons, List.map_nil] at same ⊢
      rw [same, frame.market, orderSide, orderSide, frame.kind, shown]
    | inner =>
      exact ih _ (left ▸ unvisited_lt_of_visit_inner met) (reached.inner met) same rfl
    | finished => exact ⟨same, rfl⟩
    | corrupt => exact ⟨same, rfl⟩

theorem walk_alike (frame : side.SameFrame twin) (alike : side.AlikeVisited twin) :
    twin.walk.orders twin = side.walk.orders side ∧ twin.walk.ending = side.walk.ending := by
  have start_eq : twin.start = side.start := by
    simp only [start, frame.leafCount, frame.rootNode, frame.slots]
  unfold walk
  rw [start_eq]
  exact walkFrom_alike frame alike .start rfl

/-! ## Accounts that are walked alike -/

/-- The second account has in its header what a walk of the first one reads there, and in every slot
that the walk visits the same as far as it is read. -/
structure SameWalked (account other : Account) (side twin : BookSide) : Prop where
  kind : twin.kind = side.kind
  rootNode : twin.header.rootNode = side.header.rootNode
  leafCount : twin.header.leafCount = side.header.leafCount
  bumpIndex : twin.header.bumpIndex = side.header.bumpIndex
  visited : ∀ index, side.Visits index →
    account.data.SameRead other.data (size index.toNat)

/-- Two decoded sides of such accounts are walked alike. -/
theorem SameWalked.alike {account other : Account} {market : Market} {capacity : Capacity}
    (same : SameWalked account other side twin)
    (decoded : decode account market capacity = .ok side)
    (decoded_too : decode other market capacity = .ok twin) :
    side.SameFrame twin ∧ side.AlikeVisited twin := by
  obtain ⟨slots, slots_eq, -, -, count, read, -, market_eq⟩ := decode_eq_ok_iff.1 decoded
  obtain ⟨slots_too, slots_eq_too, -, -, count_too, read_too, -, market_eq_too⟩ :=
    decode_eq_ok_iff.1 decoded_too
  obtain rfl : slots = slots_too := Except.ok.inj (slots_eq.symm.trans slots_eq_too)
  refine ⟨⟨same.kind, market_eq_too.trans market_eq.symm, count_too.trans count.symm, same.rootNode,
    same.leafCount, same.bumpIndex⟩, fun index node visits held => ?_⟩
  have inside : index.toNat < slots := count ▸ held.index_lt
  have slot_too := Array.getElem?_eq_getElem (count_too ▸ inside : index.toNat < twin.nodes.size)
  exact ⟨_, slot_too, Node.alike_of_sameRead (same.visited index visits)
    ((read _ inside).trans held.2) ((read_too _ inside).trans slot_too)⟩

/-- Orders and ending of a walk are all that its consumers can tell. -/
theorem orders_eq_of_walk (found : twin.walk.orders twin = side.walk.orders side)
    (ended : twin.walk.ending = side.walk.ending) : twin.orders = side.orders := by
  simp only [BookSide.orders, ended, found]

/-- Whether an account is refused hangs on its size alone. -/
theorem refused_of_size {account other : Account} {market : Market} {capacity : Capacity}
    {cause : PayloadError} (size_eq : other.data.size = account.data.size)
    (refused : decode account market capacity = .error cause) :
    decode other market capacity = .error cause := by
  cases slots_eq : capacity.slots with
  | error first =>
    simp only [decode, slots_eq] at refused ⊢
    exact refused
  | ok slots =>
    by_cases whole : account.data.size = size slots
    · obtain ⟨side, decoded⟩ := exists_decode market slots_eq whole
      cases decoded.symm.trans refused
    · simp only [decode, slots_eq, size_eq, if_neg whole] at refused ⊢
      exact refused

/-- Bytes that a walk does not read never matter.  An account of the same size is refused for the same
cause or decoded too; and if it agrees with the first one in what the walk of the first reads, then the
walks show the same orders and end in the same way. -/
theorem unread_irrelevant {account other : Account} (market : Market) (capacity : Capacity)
    (size_eq : other.data.size = account.data.size) :
    (∀ cause, decode account market capacity = .error cause →
        decode other market capacity = .error cause) ∧
      ∀ side, decode account market capacity = .ok side →
        ∃ twin, decode other market capacity = .ok twin ∧
          (SameWalked account other side twin →
            twin.walk.orders twin = side.walk.orders side ∧
              twin.walk.ending = side.walk.ending ∧ twin.orders = side.orders ∧
              ∀ kind, decodeOrders other kind market capacity =
                decodeOrders account kind market capacity) := by
  refine ⟨fun cause refused => refused_of_size size_eq refused, fun side decoded => ?_⟩
  obtain ⟨slots, slots_eq, whole, -⟩ := decode_eq_ok_iff.1 decoded
  obtain ⟨twin, decoded_too⟩ := exists_decode market slots_eq (size_eq.trans whole)
  refine ⟨twin, decoded_too, fun same => ?_⟩
  obtain ⟨frame, alike⟩ := same.alike decoded decoded_too
  obtain ⟨found, ended⟩ := walk_alike frame alike
  have orders_eq := orders_eq_of_walk found ended
  refine ⟨found, ended, orders_eq, fun kind => ?_⟩
  simp only [decodeOrders, decoded, decoded_too, same.kind, orders_eq]

/-- The header of the two bids with another version, another flag, other extra bytes and another list of
free slots. -/
def repaintedHeader : Header :=
  ⟨⟨5, 9, false, .replicate 5 9⟩, 4, 77, 78, 3, 2⟩

/-- The account of the two bids under another address and with everything repainted that no walk reads:
the header, what an order does not show of a leaf, the slot that was never used, and of the root all but
its tag and its children. -/
def repaintedAccount : Account where
  address := .fill 9
  data :=
    let word := Bytes.toLE 8
    let header := [[5, 9, 0, 9, 9, 9, 9, 9], word 4, word 77, [78, 0, 0, 0, 3, 0, 0, 0], word 2]
    let high := [[2, 0, 0, 0, 9, 4, 9, 9], word 3, word 1, List.replicate 32 2,
      word (UInt64.size - 6), word 1, word 99, word 1]
    let low := [[2, 0, 0, 0, 9, 0, 9, 9], word 2, word 1, List.replicate 32 1,
      word 5, word 0, word 99, word 0]
    let unused := [List.replicate 88 0x11]
    let root := [[1, 0, 0, 0, 99, 0, 0, 0], word 55, word 55, [1, 0, 0, 0, 0, 0, 0, 0],
      word 3, word 4, List.replicate 40 0x11]
    [header, high, low, unused, root].flatten.flatten.toArray

theorem unread_irrelevant_repainted :
    repaintedAccount.data.size = SlotTree.twoBidsAccount.data.size ∧
      ∃ side twin, decode SlotTree.twoBidsAccount ⟨6, 6, 100, 10⟩ (.whole 4) = .ok side ∧
        decode repaintedAccount ⟨6, 6, 100, 10⟩ (.whole 4) = .ok twin ∧
        SameWalked SlotTree.twoBidsAccount repaintedAccount side twin ∧ twin.header ≠ side.header ∧
        twin.walk.orders twin = side.walk.orders side ∧ twin.orders = side.orders := by
  have size_eq : repaintedAccount.data.size = SlotTree.twoBidsAccount.data.size := by
    decide +kernel
  obtain ⟨side, decoded, kind_eq, -, spans⟩ :=
    SlotTree.twoBids_written.exists_side ⟨6, 6, 100, 10⟩
  obtain ⟨twin, decoded_too, alike⟩ :=
    (unread_irrelevant ⟨6, 6, 100, 10⟩ (.whole 4) size_eq).2 side decoded
  obtain ⟨-, -, -, header, -⟩ := decode_eq_ok_iff.1 decoded
  obtain ⟨-, -, -, header_too, -⟩ := decode_eq_ok_iff.1 decoded_too
  have header_eq : side.header = SlotTree.twoBidsHeader :=
    Option.some.inj (header.symm.trans (by decide +kernel))
  have header_eq_too : twin.header = repaintedHeader :=
    Option.some.inj (header_too.symm.trans (by decide +kernel))
  have same : SameWalked SlotTree.twoBidsAccount repaintedAccount side twin := by
    refine ⟨?_, ?_, ?_, ?_, fun index visits => ?_⟩
    · rw [kind_eq, kind, header_eq_too]
      decide
    · rw [header_eq, header_eq_too]
      decide
    · rw [header_eq, header_eq_too]
      decide
    · rw [header_eq, header_eq_too]
      decide
    · have visited := visits.mem_slots spans
      have cases : index = 3 ∨ index = 1 ∨ index = 0 := by
        simpa [SlotTree.twoBids, SlotTree.slots] using visited
      rcases cases with rfl | rfl | rfl <;> decide +kernel
  obtain ⟨found, -, orders_eq, -⟩ := alike same
  refine ⟨size_eq, side, twin, decoded, decoded_too, same, ?_, found, orders_eq⟩
  rw [header_eq, header_eq_too]
  decide

end BookSide
end SlabBook

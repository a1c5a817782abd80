import SlabBook.Proofs.DisplayOrder
import SlabBook.Proofs.Encoding

/-!
# How far a node reaches

The tag of a node says how many bytes the node takes.  A node is read where all of them lie in the
buffer, and refused where one is missing; what is read stands in them whole, and no other byte has a say
in it.  So a slot of an account is read from its own bytes alone.  The owner of a leaf is taken by a read
that never fails and may be short; what keeps a short owner out is that the fields behind it are missing
as well.

* `Stands` — a place where a whole node lies, which a table of extents tells (`Node.extent`);
* `decode_of_agrees` — a node found again in another buffer, perhaps at another place;
* `decode_of_sameBut` — an account of which one slot was changed;
* `Node.whole_or_refused` — what reading a node comes to, at any offset of any buffer.
-/

namespace SlabBook

namespace Bytes

/-- From the place on, the second buffer holds what the first one holds from the base on. -/
def Agrees (data other : Bytes) (base place width : Nat) : Prop :=
  ∀ i, i < width → other[place + i]? = data[base + i]?

variable {data other : Bytes} {base place width : Nat}

theorem Agrees.mono {more : Nat} (agrees : data.Agrees other base place more)
    (le_more : width ≤ more) : data.Agrees other base place width :=
  fun i inside => agrees i (Nat.lt_of_lt_of_le inside le_more)

/-- Fields are carried along with the bytes that they lie in. -/
theorem Agrees.laid {fields : List Field} (agrees : data.Agrees other base place width)
    (row : InRow 0 width fields) (laid : data.Laid base fields) : other.Laid place fields := by
  intro field member i inside
  have bound := (row.inside field member).2
  have carried := agrees (field.offset + i) (by omega)
  rw [Nat.add_assoc, carried, ← Nat.add_assoc]
  exact laid field member i inside

end Bytes

namespace Node

variable {data other : Bytes} {offset : Int} {base place : Nat} {node : Node}

/-- A node's tag can be read at the offset, and all the bytes that such a node takes lie in the
buffer. -/
def Stands (data : Bytes) (offset : Int) : Prop :=
  ∃ tag, data.word32? offset = some tag ∧ 0 ≤ offset ∧ offset + extent tag ≤ data.size

theorem decode_eq_ok_iff : decode data offset = .ok node ↔ read? data offset = some node := by
  unfold decode
  cases read? data offset <;> simp

theorem exists_decode_iff : (∃ node, decode data offset = .ok node) ↔ Stands data offset := by
  simp only [decode_eq_ok_iff, ← Option.isSome_iff_exists]
  exact isSome_read?_iff

theorem decode_eq_error_iff {cause : PayloadError} :
    decode data offset = .error cause ↔ cause = .outOfBounds ∧ ¬ Stands data offset := by
  rw [← exists_decode_iff]
  unfold decode
  cases read? data offset <;> simp [eq_comm]

/-- What is read at an offset is never read at a negative one. -/
theorem exists_base (read : read? data offset = some node) : ∃ base : Nat, offset = base := by
  obtain ⟨tag, -, low, -⟩ := isSome_read?_iff.1 (Option.isSome_of_eq_some read)
  exact ⟨offset.toNat, (Int.toNat_of_nonneg low).symm⟩

/-- The tag of what is read is the word at the offset, and every field stands behind it. -/
theorem laid_of_decode (success : decode data offset = .ok node) :
    data.word32? offset = some node.tag ∧ data.Laid offset.toNat node.fields := by
  have read := decode_eq_ok_iff.1 success
  obtain ⟨base, rfl⟩ := exists_base read
  obtain ⟨-, laid⟩ := laid_of_read? read
  have first : data.Holds (base + 0) (Bytes.toLE 4 node.tag.toNat) := laid _ List.mem_cons_self
  exact ⟨Bytes.word32?_of_holds first, laid⟩

/-- A node is read again wherever the bytes that it takes stand again. -/
theorem decode_of_agrees (success : decode data offset = .ok node)
    (agrees : data.Agrees other offset.toNat place (extent node.tag)) :
    decode other place = .ok node := by
  have read := decode_eq_ok_iff.1 success
  obtain ⟨base, rfl⟩ := exists_base read
  obtain ⟨hasTag, laid⟩ := laid_of_read? read
  apply decode_eq_ok_iff.2
  apply read?_of_laid hasTag
  exact agrees.laid node.fields_inRow_extent laid

/-- What reading a node at an offset comes to. -/
structure Answers (data : Bytes) (offset : Int) (answer : Except PayloadError Node) : Prop where
  ok_iff : (∃ node, answer = .ok node) ↔ Stands data offset
  error_iff : ∀ cause, answer = .error cause ↔ cause = .outOfBounds ∧ ¬ Stands data offset
  /-- Every field of the node is whole. -/
  whole : ∀ node, answer = .ok node → data.word32? offset = some node.tag ∧
    data.Laid offset.toNat node.fields ∧ InRow 0 (extent node.tag) node.fields
  /-- The node hangs on nothing but its own bytes. -/
  alone : ∀ node, answer = .ok node → ∀ (other : Bytes) (place : Nat),
    data.Agrees other offset.toNat place (extent node.tag) → decode other place = .ok node

theorem answers_decode (data : Bytes) (offset : Int) : Answers data offset (decode data offset) where
  ok_iff := exists_decode_iff
  error_iff := fun _ => decode_eq_error_iff
  whole := by
    intro node success
    obtain ⟨tagged, laid⟩ := laid_of_decode success
    exact ⟨tagged, laid, node.fields_inRow_extent⟩
  alone := fun node success other place agrees => decode_of_agrees success agrees

end Node

namespace BookSide

/-- The buffers have one size and agree outside a slot. -/
structure SameBut (slot : Nat) (data other : Bytes) : Prop where
  size_eq : other.size = data.size
  outside : ∀ position, position < size slot ∨ size (slot + 1) ≤ position →
    other[position]? = data[position]?

variable {data other : Bytes} {slot i : Nat}

theorem SameBut.agrees_front (same : SameBut slot data other) :
    data.Agrees other 0 0 Header.length := by
  intro i inside
  apply same.outside
  simp only [size, Header.length] at inside ⊢
  omega

theorem SameBut.agrees_slot (same : SameBut slot data other) (apart : i ≠ slot) :
    data.Agrees other (size i) (size i) Node.length := by
  intro k inside
  apply same.outside
  simp only [size, Header.length, Node.length] at inside ⊢
  omega

theorem SameBut.header_eq {header : Header} (same : SameBut slot data other)
    (read : Header.read? data = some header) : Header.read? other = some header := by
  obtain ⟨flag, -, flag_eq, laid⟩ := Header.laid_of_read? read
  apply Header.read?_of_laid _ flag_eq
  exact same.agrees_front.laid (header.fields_inRow flag) laid

theorem SameBut.node_eq {node : Node} (same : SameBut slot data other) (apart : i ≠ slot)
    (success : Node.decode data (size i) = .ok node) : Node.decode other (size i) = .ok node := by
  apply Node.decode_of_agrees success
  rw [Int.toNat_natCast]
  exact (same.agrees_slot apart).mono (Node.extent_le_length node.tag)

/-- Whatever is written into a slot stays there. -/
theorem sameBut_overwrite (data : Bytes) (slot : Nat) {run : List UInt8}
    (fits : run.length ≤ Node.length) : SameBut slot data (data.overwrite (size slot) run) where
  size_eq := Bytes.size_overwrite data (size slot) run
  outside := by
    intro position apart
    rw [size_succ] at apart
    rw [Bytes.getElem?_overwrite, if_neg]
    omega

/-- The node of a slot is what is read at the slot's offset. -/
theorem decode_slot {account : Account} {market : Market} {capacity : Capacity} {side : BookSide}
    (decoded : decode account market capacity = .ok side) {node : Node}
    (there : side.nodes[i]? = some node) : Node.decode account.data (size i) = .ok node := by
  obtain ⟨slots, -, -, -, count, read, -⟩ := decode_eq_ok_iff.1 decoded
  have inside := (Array.getElem?_eq_some_iff.1 there).1
  apply Node.decode_eq_ok_iff.2
  rw [read i (by omega), there]

/-- A change to one slot reaches no other one, and not the header. -/
theorem decode_of_sameBut {account changed : Account} {market : Market} {capacity : Capacity}
    {side : BookSide} (decoded : decode account market capacity = .ok side)
    (same : SameBut slot account.data changed.data) :
    ∃ twin, decode changed market capacity = .ok twin ∧ twin.header = side.header ∧
      twin.nodes.size = side.nodes.size ∧ ∀ i, i ≠ slot → twin.nodes[i]? = side.nodes[i]? := by
  obtain ⟨slots, slots_eq, size_eq, header_eq, count, -⟩ := decode_eq_ok_iff.1 decoded
  obtain ⟨twin, decoded_too⟩ := exists_decode market slots_eq (same.size_eq.trans size_eq)
  obtain ⟨slots_too, slots_eq_too, -, header_eq_too, count_too, read_too, -⟩ :=
    decode_eq_ok_iff.1 decoded_too
  obtain rfl : slots = slots_too := Except.ok.inj (slots_eq.symm.trans slots_eq_too)
  have header_same : twin.header = side.header :=
    Option.some.inj (header_eq_too.symm.trans (same.header_eq header_eq))
  refine ⟨twin, decoded_too, header_same, count_too.trans count.symm, fun i apart => ?_⟩
  cases there : side.nodes[i]? with
  | none =>
    have beyond := Array.getElem?_eq_none_iff.1 there
    exact Array.getElem?_eq_none (by omega)
  | some node =>
    have inside := (Array.getElem?_eq_some_iff.1 there).1
    have found := Node.decode_eq_ok_iff.1 (same.node_eq apart (decode_slot decoded there))
    rw [← read_too i (by omega), found]

end BookSide

/-- A node is read whole or refused, at any offset of any buffer, and hangs on its own bytes alone.  The
node of each slot of an account is read so at the slot's offset, and stays what it is when any other
slot is changed. -/
theorem Node.whole_or_refused :
    (∀ (data : Bytes) (offset : Int), Answers data offset (decode data offset)) ∧
      ∀ (account : Account) (market : Market) (capacity : Capacity) (side : BookSide),
        BookSide.decode account market capacity = .ok side →
          (∀ i node, side.nodes[i]? = some node →
            decode account.data (BookSide.size i) = .ok node) ∧
          ∀ (changed : Account) (slot : Nat), BookSide.SameBut slot account.data changed.data →
            ∃ twin, BookSide.decode changed market capacity = .ok twin ∧
              twin.header = side.header ∧ twin.nodes.size = side.nodes.size ∧
              ∀ i, i ≠ slot → twin.nodes[i]? = side.nodes[i]? := by
  refine ⟨answers_decode, fun account market capacity side decoded => ?_⟩
  exact ⟨fun i node there => BookSide.decode_slot decoded there,
    fun changed slot same => BookSide.decode_of_sameBut decoded same⟩

/-- The account of the two bids up to the last byte but one of its first leaf. -/
def cutLeaf : Bytes := SlotTree.twoBidsAccount.data.extract 0 127

/-- The account of the two bids with its unused slot filled. -/
def filledAccount : Account :=
  { SlotTree.twoBidsAccount with
    data := SlotTree.twoBidsAccount.data.overwrite (BookSide.size 2) (List.replicate 88 2) }

/-- A leaf without its last byte is refused, and the two bids are read as before when the slot beside
them is filled. -/
theorem Node.whole_or_refused_twoBids :
    decode cutLeaf 40 = .error .outOfBounds ∧
      BookSide.SameBut 2 SlotTree.twoBidsAccount.data filledAccount.data ∧
      ∃ side twin,
        BookSide.decode SlotTree.twoBidsAccount ⟨6, 6, 100, 10⟩ (.whole 4) = .ok side ∧
        BookSide.decode filledAccount ⟨6, 6, 100, 10⟩ (.whole 4) = .ok twin ∧
        twin.header = side.header ∧ ∀ i, i ≠ 2 → twin.nodes[i]? = side.nodes[i]? := by
  have cut : ¬ Stands cutLeaf 40 := by
    rintro ⟨tag, tagged, -, inside⟩
    have leaf : cutLeaf.word32? 40 = some 2 := by decide +kernel
    have short : cutLeaf.size = 127 := by decide +kernel
    have takes : extent 2 = 88 := rfl
    obtain rfl := Option.some.inj (leaf.symm.trans tagged)
    rw [short, takes] at inside
    omega
  have fits : (List.replicate 88 (2 : UInt8)).length ≤ Node.length := by simp [Node.length]
  have same : BookSide.SameBut 2 SlotTree.twoBidsAccount.data filledAccount.data := by
    simpa only [filledAccount] using
      BookSide.sameBut_overwrite SlotTree.twoBidsAccount.data 2 fits
  obtain ⟨side, decoded, -⟩ := SlotTree.twoBids_written.exists_side ⟨6, 6, 100, 10⟩
  obtain ⟨answers, slots⟩ := whole_or_refused
  obtain ⟨twin, decoded_too, header, -, others⟩ := (slots _ _ _ side decoded).2 _ 2 same
  exact ⟨((answers cutLeaf 40).error_iff _).2 ⟨rfl, cut⟩, same, side, twin, decoded, decoded_too,
    header, others⟩

end SlabBook

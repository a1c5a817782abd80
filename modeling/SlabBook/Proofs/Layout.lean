import SlabBook.Book.Side

/-!
# The layout of a book side account

Which bytes of an account stand for which field, as a table that knows no reader.  A field is a run
of bytes at an offset; the bytes between fields are padding and may be anything.

* `Header.read?_of_laid`, `Node.read?_of_laid` — what is laid out is read back;
* `decode_eq_ok_iff` — what decoding an account amounts to, slot by slot.
-/

namespace SlabBook

structure Field where
  offset : Nat
  run : List UInt8
  deriving DecidableEq, Repr

namespace Bytes

/-- The run of bytes stands in the buffer from the offset on. -/
def Holds (data : Bytes) (offset : Nat) (run : List UInt8) : Prop :=
  ∀ i, i < run.length → data[offset + i]? = run[i]?

/-- Every field stands in the buffer, counted from the base. -/
def Laid (data : Bytes) (base : Nat) (fields : List Field) : Prop :=
  ∀ field ∈ fields, data.Holds (base + field.offset) field.run

instance (data : Bytes) (offset : Nat) (run : List UInt8) : Decidable (data.Holds offset run) :=
  inferInstanceAs (Decidable (∀ i, i < run.length → data[offset + i]? = run[i]?))

instance (data : Bytes) (base : Nat) (fields : List Field) : Decidable (data.Laid base fields) :=
  inferInstanceAs (Decidable (∀ field ∈ fields, data.Holds (base + field.offset) field.run))

variable {data : Bytes} {offset : Nat}

theorem toLE_add (first second value : Nat) :
    toLE (first + second) value =
      toLE first value ++ toLE second (value / Nat.pow 256 first) := by
  induction first generalizing value with
  | zero => simp [toLE]
  | succ first ih =>
    have wider : Nat.pow 256 (first + 1) = 256 * Nat.pow 256 first := Nat.pow_succ'
    rw [Nat.succ_add, toLE, toLE, ih, Nat.div_div_eq_div_mul, wider]
    rfl

theorem toLE_mod (width value : Nat) :
    toLE width (value % Nat.pow 256 width) = toLE width value := by
  have back := toLE_ofLE (toLE width value)
  rwa [length_toLE, ofLE_toLE] at back

theorem holds_append_iff {first second : List UInt8} :
    data.Holds offset (first ++ second) ↔
      data.Holds offset first ∧ data.Holds (offset + first.length) second := by
  constructor
  · intro holds
    refine ⟨fun i inside => ?_, fun i inside => ?_⟩
    · rw [holds i (by simp only [List.length_append]; omega), List.getElem?_append_left inside]
    · rw [Nat.add_assoc, holds (first.length + i) (by simp only [List.length_append]; omega),
        List.getElem?_append_right (by omega), Nat.add_sub_cancel_left]
  · rintro ⟨left, right⟩ i inside
    rw [List.length_append] at inside
    rcases Nat.lt_or_ge i first.length with before | after
    · rw [left i before, List.getElem?_append_left before]
    · have shifted := right (i - first.length) (by omega)
      rw [List.getElem?_append_right after, ← shifted]
      congr 1
      omega

theorem slice?_of_holds {run : List UInt8} (positive : 0 < run.length)
    (holds : data.Holds offset run) : data.slice? offset run.length = some run := by
  have last := holds (run.length - 1) (by omega)
  rw [List.getElem?_eq_getElem (by omega)] at last
  have inside := (Array.getElem?_eq_some_iff.1 last).1
  refine slice?_eq_some_iff.2 ⟨by omega, ?_⟩
  apply List.ext_getElem?
  intro i
  simp only [Array.getElem?_toList, Array.getElem?_extract, Int.toNat_natCast]
  split
  next within => exact (holds i (by omega)).symm
  next beyond => exact List.getElem?_eq_none (by omega)

theorem nat?_of_holds {run : List UInt8} (positive : 0 < run.length)
    (holds : data.Holds offset run) : data.nat? offset run.length = some (ofLE run) := by
  rw [nat?, slice?_of_holds positive holds]
  rfl

theorem nat?_of_holds_toLE {width value : Nat} (positive : 0 < width)
    (holds : data.Holds offset (toLE width value)) :
    data.nat? offset width = some (value % Nat.pow 256 width) := by
  have read := nat?_of_holds (by simpa using positive) holds
  rwa [length_toLE, ofLE_toLE] at read

theorem byte?_of_holds {byte : UInt8} (holds : data.Holds offset [byte]) :
    data.byte? offset = some byte := by
  have read : data.nat? offset 1 = some (ofLE [byte]) := nat?_of_holds (by simp) holds
  rw [byte?, read]
  simp [ofLE]

theorem word32?_of_holds {word : UInt32} (holds : data.Holds offset (toLE 4 word.toNat)) :
    data.word32? offset = some word := by
  have small : word.toNat < Nat.pow 256 4 := word.toNat_lt
  rw [word32?, nat?_of_holds_toLE (by decide) holds, Nat.mod_eq_of_lt small]
  simp

theorem word64?_of_holds {word : UInt64} (holds : data.Holds offset (toLE 8 word.toNat)) :
    data.word64? offset = some word := by
  have small : word.toNat < Nat.pow 256 8 := word.toNat_lt
  rw [word64?, nat?_of_holds_toLE (by decide) holds, Nat.mod_eq_of_lt small]
  simp

theorem signed64?_of_holds {word : Int64}
    (holds : data.Holds offset (toLE 8 word.toUInt64.toNat)) :
    data.signed64? offset = some word := by
  rw [signed64?, word64?_of_holds holds]
  simp

/-! ## Which reads succeed -/

section

variable {offset : Int}

theorem isSome_slice? {width : Nat} :
    (data.slice? offset width).isSome ↔ 0 ≤ offset ∧ offset + width ≤ data.size := by
  unfold slice?
  split
  next inside => simp [inside]
  next outside => simp [outside]

theorem isSome_byte? : (data.byte? offset).isSome ↔ 0 ≤ offset ∧ offset + 1 ≤ data.size := by
  rw [byte?, nat?, Option.isSome_map, Option.isSome_map]
  exact isSome_slice?

theorem isSome_word32? : (data.word32? offset).isSome ↔ 0 ≤ offset ∧ offset + 4 ≤ data.size := by
  rw [word32?, nat?, Option.isSome_map, Option.isSome_map]
  exact isSome_slice?

theorem isSome_word64? : (data.word64? offset).isSome ↔ 0 ≤ offset ∧ offset + 8 ≤ data.size := by
  rw [word64?, nat?, Option.isSome_map, Option.isSome_map]
  exact isSome_slice?

theorem isSome_signed64? :
    (data.signed64? offset).isSome ↔ 0 ≤ offset ∧ offset + 8 ≤ data.size := by
  rw [signed64?, Option.isSome_map]
  exact isSome_word64?

end

end Bytes

/-- A read that goes on with another succeeds when both do. -/
theorem isSome_bind_iff {α β : Type} {read : Option α} {next : α → Option β} :
    (read >>= next).isSome ↔ ∃ value, read = some value ∧ (next value).isSome := by
  cases read <;> simp

/-! ## Nodes -/

namespace OrderKey

/-- The low word of a key comes first, and it is the sequence. -/
theorem toLE_toNat (key : OrderKey) :
    Bytes.toLE 16 key.toNat = Bytes.toLE 8 key.sequence.toNat ++ Bytes.toLE 8 key.price.toNat := by
  have bound := key.sequence.toNat_lt
  have low : key.toNat % UInt64.size = key.sequence.toNat := by
    simp only [toNat, UInt64.size]
    omega
  have high : key.toNat / UInt64.size = key.price.toNat := by
    simp only [toNat, UInt64.size]
    omega
  have width : Nat.pow 256 8 = UInt64.size := by decide
  rw [Bytes.toLE_add 8 8, ← Bytes.toLE_mod 8 key.toNat, width, low, high]

end OrderKey

def Inner.fields (node : Inner) : List Field :=
  [⟨4, Bytes.toLE 4 node.prefixLen.toNat⟩, ⟨8, Bytes.toLE 16 node.key.toNat⟩,
    ⟨24, Bytes.toLE 4 node.lesser.toNat⟩, ⟨28, Bytes.toLE 4 node.greater.toNat⟩,
    ⟨32, Bytes.toLE 8 node.lesserExpiry.toNat⟩, ⟨40, Bytes.toLE 8 node.greaterExpiry.toNat⟩]

def Leaf.fields (node : Leaf) : List Field :=
  [⟨4, [node.ownerSlot]⟩, ⟨5, [node.orderType]⟩, ⟨6, [node.version]⟩, ⟨7, [node.timeInForce]⟩,
    ⟨8, Bytes.toLE 16 node.key.toNat⟩, ⟨24, node.owner.bytes.toList⟩,
    ⟨56, Bytes.toLE 8 node.quantity.toUInt64.toNat⟩, ⟨64, Bytes.toLE 8 node.clientOrderId.toNat⟩,
    ⟨72, Bytes.toLE 8 node.bestInitial.toUInt64.toNat⟩, ⟨80, Bytes.toLE 8 node.timestamp.toNat⟩]

namespace Node

/-- The first word of a node. -/
def tag : Node → UInt32
  | uninitialized => 0
  | inner _ => 1
  | leaf _ => 2
  | free _ last => if last then 4 else 3
  | unknown tag => tag

/-- The fields of a node, counted from the start of its slot. -/
def fields (node : Node) : List Field :=
  ⟨0, Bytes.toLE 4 node.tag.toNat⟩ ::
    match node with
    | inner node => node.fields
    | leaf node => node.fields
    | free next _ => [⟨4, Bytes.toLE 4 next.toNat⟩]
    | _ => []

variable {data : Bytes} {base : Nat}

theorem key?_of_holds {key : OrderKey} (holds : data.Holds base (Bytes.toLE 16 key.toNat)) :
    key? data base = some key := by
  rw [key.toLE_toNat, Bytes.holds_append_iff, Bytes.length_toLE] at holds
  have sequence := Bytes.word64?_of_holds holds.1
  have price := Bytes.word64?_of_holds holds.2
  simp only [Int.natCast_add, Int.cast_ofNat_Int] at price
  simp [key?, sequence, price]

/-- The address at an offset, if none of its bytes is missing. -/
def address? (data : Bytes) (offset : Int) : Option Address :=
  (data.slice? offset 32).bind Address.ofList?

theorem address?_eq_some {offset : Int} (low : 0 ≤ offset) (high : offset + 32 ≤ data.size) :
    address? data offset = some (address data offset) := by
  have whole := Bytes.slice?_eq_clip low high
  have exact : (data.clip offset 32).length = 32 := Bytes.length_of_slice? whole
  have same := Address.ofShort_of_ofList? (dif_pos exact) (data.length_clip_le offset 32)
  rw [address?, whole, address, same, Option.bind_some, Address.ofList?, dif_pos exact]

/-- Two bytes alone are taken for an address that ends with them. -/
example : (address #[7, 9] 0).bytes.toList = List.replicate 30 0 ++ [7, 9] := by decide

theorem address_of_holds {owner : Address} (holds : data.Holds base owner.bytes.toList) :
    address data base = owner := by
  have read := Bytes.slice?_of_holds (by simp) holds
  rw [Vector.length_toList] at read
  obtain ⟨low, high⟩ := (Bytes.slice?_eq_some_iff.1 read).1
  have found : address? data base = some owner := by
    rw [address?, read]
    obtain ⟨⟨⟨bytes⟩, exact⟩⟩ := owner
    have length_eq : bytes.length = 32 := exact
    simp [Address.ofList?, length_eq]
  exact Option.some.inj ((address?_eq_some low high).symm.trans found)

theorem inner?_of_laid {node : Inner} (laid : data.Laid base node.fields) :
    inner? data base = some node := by
  simp only [Bytes.Laid, Inner.fields, List.forall_mem_cons] at laid
  obtain ⟨prefixLen, key, lesser, greater, lesserExpiry, greaterExpiry, -⟩ := laid
  have prefixLen := Bytes.word32?_of_holds prefixLen
  have key := key?_of_holds key
  have lesser := Bytes.word32?_of_holds lesser
  have greater := Bytes.word32?_of_holds greater
  have lesserExpiry := Bytes.word64?_of_holds lesserExpiry
  have greaterExpiry := Bytes.word64?_of_holds greaterExpiry
  simp only [Int.natCast_add, Int.cast_ofNat_Int] at *
  simp [inner?, prefixLen, key, lesser, greater, lesserExpiry, greaterExpiry]

theorem leaf?_of_laid {node : Leaf} (laid : data.Laid base node.fields) :
    leaf? data base = some node := by
  simp only [Bytes.Laid, Leaf.fields, List.forall_mem_cons] at laid
  obtain ⟨ownerSlot, orderType, version, timeInForce, key, owner, quantity, clientOrderId,
    bestInitial, timestamp, -⟩ := laid
  have ownerSlot := Bytes.byte?_of_holds ownerSlot
  have orderType := Bytes.byte?_of_holds orderType
  have version := Bytes.byte?_of_holds version
  have timeInForce := Bytes.byte?_of_holds timeInForce
  have key := key?_of_holds key
  have owner := address_of_holds owner
  have quantity := Bytes.signed64?_of_holds quantity
  have clientOrderId := Bytes.word64?_of_holds clientOrderId
  have bestInitial := Bytes.signed64?_of_holds bestInitial
  have timestamp := Bytes.word64?_of_holds timestamp
  simp only [Int.natCast_add, Int.cast_ofNat_Int] at *
  simp [leaf?, ownerSlot, orderType, version, timeInForce, key, owner, quantity, clientOrderId,
    bestInitial, timestamp]

/-- A tag that names a kind of node is no unknown one. -/
def HasTag : Node → Prop
  | unknown tag => 4 < tag
  | _ => True

theorem read?_of_laid {node : Node} (hasTag : node.HasTag) (laid : data.Laid base node.fields) :
    read? data base = some node := by
  obtain ⟨tag, fields⟩ := List.forall_mem_cons.1 laid
  have tag := Bytes.word32?_of_holds tag
  rw [Nat.add_zero] at tag
  unfold read?
  cases node with
  | uninitialized => simp [tag, Node.tag]
  | inner node => simp [tag, Node.tag, inner?_of_laid fields]
  | leaf node => simp [tag, Node.tag, leaf?_of_laid fields]
  | free next last =>
    have next := Bytes.word32?_of_holds (fields _ List.mem_cons_self)
    simp only [Int.natCast_add, Int.cast_ofNat_Int] at next
    cases last <;> simp [tag, Node.tag, next]
  | unknown given =>
    simp only [tag, Node.tag, bind, Option.bind]
    split
    case h_6 => rfl
    all_goals simp [HasTag] at hasTag

theorem isSome_key? {offset : Int} :
    (key? data offset).isSome ↔ 0 ≤ offset ∧ offset + 16 ≤ data.size := by
  simp only [key?, isSome_bind_iff, exists_and_right, ← Option.isSome_iff_exists,
    Bytes.isSome_word64?, pure, Option.isSome_some, and_true]
  omega

theorem isSome_inner? {offset : Int} :
    (inner? data offset).isSome ↔ 0 ≤ offset + 4 ∧ offset + 48 ≤ data.size := by
  simp only [inner?, isSome_bind_iff, exists_and_right, ← Option.isSome_iff_exists,
    Bytes.isSome_word32?, Bytes.isSome_word64?, isSome_key?, pure, Option.isSome_some, and_true]
  omega

/-- The owner is clipped without a complaint, but where it is, the fields behind it are missing. -/
theorem isSome_leaf? {offset : Int} :
    (leaf? data offset).isSome ↔ 0 ≤ offset + 4 ∧ offset + 88 ≤ data.size := by
  simp only [leaf?, isSome_bind_iff, exists_and_right, ← Option.isSome_iff_exists,
    Bytes.isSome_byte?, Bytes.isSome_word64?, Bytes.isSome_signed64?, isSome_key?, pure,
    Option.isSome_some, and_true]
  omega

/-- The number of bytes that a node with the tag takes. -/
def extent (tag : UInt32) : Nat :=
  match tag with
  | 1 => 48
  | 2 => 88
  | 3 => 8
  | 4 => 8
  | _ => 4

theorem four_le_extent (tag : UInt32) : 4 ≤ extent tag := by
  unfold extent
  split <;> omega

theorem extent_le_length (tag : UInt32) : extent tag ≤ length := by
  unfold extent length
  split <;> omega

/-- A node can be read where its tag can, and all the bytes that such a node takes lie in the buffer. -/
theorem isSome_read?_iff {offset : Int} :
    (read? data offset).isSome ↔
      ∃ tag, data.word32? offset = some tag ∧ 0 ≤ offset ∧ offset + extent tag ≤ data.size := by
  rw [read?, isSome_bind_iff]
  refine exists_congr fun tag => and_congr_right fun tagged => ?_
  obtain ⟨low, inside⟩ := Bytes.isSome_word32?.1 (Option.isSome_of_eq_some tagged)
  unfold extent
  split
  case h_1 => simp [low, inside]
  case h_6 =>
    split
    case h_5 => simp only [pure, Option.isSome_some, low, true_and, Int.cast_ofNat_Int, inside]
    all_goals contradiction
  all_goals
    simp only [isSome_bind_iff, ← Option.isSome_iff_exists, pure, Option.isSome_some, and_true,
      isSome_inner?, isSome_leaf?, Bytes.isSome_word32?]
    omega

/-- A slot that lies inside the buffer can be read, whatever it holds. -/
theorem isSome_read? (inside : base + length ≤ data.size) : (read? data base).isSome := by
  have room : base + 4 ≤ data.size := by
    unfold length at inside
    omega
  obtain ⟨tag, tagged⟩ := Option.isSome_iff_exists.1
    (Bytes.isSome_word32?.2 (show 0 ≤ (base : Int) ∧ (base : Int) + 4 ≤ data.size by omega))
  have shorter := extent_le_length tag
  exact isSome_read?_iff.2 ⟨tag, tagged, by omega, by omega⟩

end Node

/-! ## Headers -/

namespace Header

/-- The fields of a header.  The flag is the byte of which the header keeps only whether it is
zero. -/
def fields (header : Header) (flag : UInt8) : List Field :=
  [⟨0, [header.metadata.dataType]⟩, ⟨1, [header.metadata.version]⟩, ⟨2, [flag]⟩,
    ⟨3, header.metadata.extraInfo.toList⟩, ⟨8, Bytes.toLE 8 header.bumpIndex.toNat⟩,
    ⟨16, Bytes.toLE 8 header.freeListLen.toNat⟩, ⟨24, Bytes.toLE 4 header.freeListHead.toNat⟩,
    ⟨28, Bytes.toLE 4 header.rootNode.toNat⟩, ⟨32, Bytes.toLE 8 header.leafCount.toNat⟩]

variable {data : Bytes}

theorem extraInfo?_of_holds {extraInfo : Vector UInt8 5} (holds : data.Holds 3 extraInfo.toList) :
    extraInfo? data = some extraInfo := by
  have read := Bytes.slice?_of_holds (by simp) holds
  rw [Vector.length_toList] at read
  have read : data.slice? 3 5 = some extraInfo.toList := read
  rw [extraInfo?, read]
  obtain ⟨⟨bytes⟩, exact⟩ := extraInfo
  have length_eq : bytes.length = 5 := exact
  simp [length_eq]

theorem read?_of_laid {header : Header} {flag : UInt8} (laid : data.Laid 0 (header.fields flag))
    (flag_eq : header.metadata.isInitialized = (flag != 0)) : read? data = some header := by
  simp only [Bytes.Laid, fields, List.forall_mem_cons, Nat.zero_add] at laid
  obtain ⟨dataType, version, flagged, extraInfo, bumpIndex, freeListLen, freeListHead, rootNode,
    leafCount, -⟩ := laid
  have dataType := Bytes.byte?_of_holds dataType
  have version := Bytes.byte?_of_holds version
  have flagged := Bytes.byte?_of_holds flagged
  have extraInfo := extraInfo?_of_holds extraInfo
  have bumpIndex := Bytes.word64?_of_holds bumpIndex
  have freeListLen := Bytes.word64?_of_holds freeListLen
  have freeListHead := Bytes.word32?_of_holds freeListHead
  have rootNode := Bytes.word32?_of_holds rootNode
  have leafCount := Bytes.word64?_of_holds leafCount
  simp only [Int.cast_ofNat_Int] at *
  simp [read?, metadata?, dataType, version, flagged, extraInfo, bumpIndex, freeListLen,
    freeListHead, rootNode, leafCount, ← flag_eq]

theorem isSome_extraInfo? : (extraInfo? data).isSome ↔ 8 ≤ data.size := by
  have inside : (data.slice? 3 5).isSome ↔ _ := Bytes.isSome_slice?
  unfold extraInfo?
  cases read : data.slice? 3 5 with
  | none =>
    simp only [read] at inside
    simp at inside ⊢
    omega
  | some run =>
    simp only [read] at inside
    simp [Bytes.length_of_slice? read] at inside ⊢
    omega

theorem isSome_read? : (read? data).isSome ↔ length ≤ data.size := by
  simp only [read?, metadata?, isSome_bind_iff, exists_and_right, ← Option.isSome_iff_exists,
    Bytes.isSome_byte?, Bytes.isSome_word32?, Bytes.isSome_word64?, isSome_extraInfo?, pure,
    Option.isSome_some, and_true, length]
  omega

end Header

/-! ## Whole accounts -/

theorem Capacity.slots_whole {slots : Nat} (positive : 1 ≤ slots) :
    (whole slots).slots = .ok slots := by
  rw [Capacity.slots, if_pos (by omega), Int.toNat_natCast]

namespace BookSide

variable {data : Bytes}

/-- The nodes that are read are the ones already read, followed by those of the next slots. -/
theorem readNodes?_eq_some_iff {count : Nat} {read nodes : Array Node} :
    readNodes? data count read = some nodes ↔
      nodes.size = read.size + count ∧ (∀ i, i < read.size → nodes[i]? = read[i]?) ∧
        ∀ i, read.size ≤ i → i < nodes.size → Node.read? data (size i) = nodes[i]? := by
  induction count generalizing read with
  | zero =>
    simp only [readNodes?, Option.some.injEq, Nat.add_zero]
    constructor
    · rintro rfl
      exact ⟨rfl, fun _ _ => rfl, fun i _ _ => by omega⟩
    · rintro ⟨size_eq, same, -⟩
      apply Array.ext_getElem?
      intro i
      by_cases inside : i < read.size
      · exact (same i inside).symm
      · rw [Array.getElem?_eq_none (by omega), Array.getElem?_eq_none (by omega)]
  | succ count ih =>
    simp only [readNodes?, bind, Option.bind_eq_some_iff, ih, Array.size_push]
    constructor
    · rintro ⟨node, success, size_eq, same, later⟩
      have here := same read.size (by omega)
      rw [Array.getElem?_push_size] at here
      refine ⟨by omega, ?_, ?_⟩
      · intro i inside
        rw [same i (by omega), Array.getElem?_push_lt inside, Array.getElem?_eq_getElem inside]
      · intro i low high
        rcases Nat.eq_or_lt_of_le low with rfl | beyond
        · rw [success, here]
        · exact later i beyond high
    · rintro ⟨size_eq, same, later⟩
      have inside : read.size < nodes.size := by omega
      have here := Array.getElem?_eq_getElem inside
      refine ⟨nodes[read.size], (later _ (Nat.le_refl _) inside).trans here, by omega, ?_, ?_⟩
      · intro i low
        rcases Nat.eq_or_lt_of_le (Nat.le_of_lt_succ low) with rfl | before
        · rw [here, Array.getElem?_push_size]
        · rw [same i before, Array.getElem?_push_lt before, Array.getElem?_eq_getElem before]
      · exact fun i low high => later i (by omega) high

/-- Decoding refuses a wrong capacity and a wrong size.  Otherwise it gives the account's header
and, slot by slot, its nodes. -/
theorem decode_eq_ok_iff {account : Account} {market : Market} {capacity : Capacity}
    {side : BookSide} :
    decode account market capacity = .ok side ↔
      ∃ slots, capacity.slots = .ok slots ∧ account.data.size = size slots ∧
        Header.read? account.data = some side.header ∧ side.nodes.size = slots ∧
        (∀ i, i < slots → Node.read? account.data (size i) = side.nodes[i]?) ∧
        side.address = account.address ∧ side.market = market := by
  unfold decode
  cases slots_eq : capacity.slots with
  | error cause => simp
  | ok slots =>
    simp only [Except.ok.injEq, exists_eq_left']
    by_cases size_eq : account.data.size = size slots
    · simp only [size_eq, if_true, true_and]
      constructor
      · intro success
        split at success
        next header nodes header_eq nodes_eq =>
          cases success
          obtain ⟨count, -, read⟩ := readNodes?_eq_some_iff.1 nodes_eq
          simp only [Array.size_empty, Nat.zero_add] at count read
          exact ⟨header_eq, count, fun i inside => read i (by omega) (by omega), rfl, rfl⟩
        · cases success
      · rintro ⟨header_eq, count, read, address_eq, market_eq⟩
        have nodes_eq : readNodes? account.data slots #[] = some side.nodes :=
          readNodes?_eq_some_iff.2 ⟨by simp [count], by simp, fun i _ high => read i (by omega)⟩
        simp only [header_eq, nodes_eq, ← address_eq, ← market_eq]
    · simp [size_eq]

theorem isSome_readNodes? {count : Nat} {read : Array Node}
    (inside : size (read.size + count) ≤ data.size) : (readNodes? data count read).isSome := by
  induction count generalizing read with
  | zero => rfl
  | succ count ih =>
    simp only [size, Header.length, Node.length] at inside ih
    have slot : (Node.read? data (size read.size)).isSome :=
      Node.isSome_read? (by simp only [size, Header.length, Node.length]; omega)
    obtain ⟨node, success⟩ := Option.isSome_iff_exists.1 slot
    rw [readNodes?, isSome_bind_iff]
    exact ⟨node, success, ih (by simp only [Array.size_push]; omega)⟩

/-- Every account of the right size is decoded: no read leaves the buffer. -/
theorem exists_decode {account : Account} (market : Market) {capacity : Capacity} {slots : Nat}
    (slots_eq : capacity.slots = .ok slots) (size_eq : account.data.size = size slots) :
    ∃ side, decode account market capacity = .ok side := by
  have header : (Header.read? account.data).isSome :=
    Header.isSome_read?.2 (by rw [size_eq, size]; omega)
  have nodes : (readNodes? account.data slots #[]).isSome :=
    isSome_readNodes? (by simp [size_eq])
  obtain ⟨header, header_eq⟩ := Option.isSome_iff_exists.1 header
  obtain ⟨nodes, nodes_eq⟩ := Option.isSome_iff_exists.1 nodes
  unfold decode
  simp only [slots_eq, size_eq, if_true, header_eq, nodes_eq]
  exact ⟨_, rfl⟩

end BookSide
end SlabBook

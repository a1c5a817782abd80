import SlabBook.Proofs.Layout

/-!
# Writing accounts

The table of fields read as a writer: every field is written at its offset over a buffer whose other
bytes stay.  Fields lie one after the other and never overlap.

* `Node.laid_of_read?`, `Header.laid_of_read?` — what is read stands in the buffer;
* `getElem?_write_of_covers`, `getElem?_write_of_uncovered` — every byte that is written or left;
* `decode_encode_inverse` — decoding and writing undo each other.
-/

namespace SlabBook

/-! ## What was read stands in the buffer -/

namespace Bytes

variable {data : Bytes} {offset : Int} {position : Nat}

theorem holds_of_nat? {width value : Nat} (here : offset.toNat = position)
    (success : data.nat? offset width = some value) :
    data.Holds position (toLE width value) := by
  obtain ⟨run, read, rfl⟩ := Option.map_eq_some_iff.1 success
  have length_eq := length_of_slice? read
  obtain ⟨⟨low, high⟩, run_eq⟩ := slice?_eq_some_iff.1 read
  subst here length_eq
  rw [toLE_ofLE]
  intro i inside
  rw [run_eq, Array.getElem?_toList, Array.getElem?_extract, if_pos]
  omega

theorem holds_of_byte? {byte : UInt8} (here : offset.toNat = position)
    (success : data.byte? offset = some byte) : data.Holds position [byte] := by
  obtain ⟨value, read, rfl⟩ := Option.map_eq_some_iff.1 success
  exact holds_of_nat? here read

theorem holds_of_word32? {word : UInt32} (here : offset.toNat = position)
    (success : data.word32? offset = some word) :
    data.Holds position (toLE 4 word.toNat) := by
  obtain ⟨value, read, rfl⟩ := Option.map_eq_some_iff.1 success
  have held := holds_of_nat? here read
  rwa [← toLE_mod] at held

theorem holds_of_word64? {word : UInt64} (here : offset.toNat = position)
    (success : data.word64? offset = some word) :
    data.Holds position (toLE 8 word.toNat) := by
  obtain ⟨value, read, rfl⟩ := Option.map_eq_some_iff.1 success
  have held := holds_of_nat? here read
  rwa [← toLE_mod] at held

theorem holds_of_signed64? {word : Int64} (here : offset.toNat = position)
    (success : data.signed64? offset = some word) :
    data.Holds position (toLE 8 word.toUInt64.toNat) := by
  obtain ⟨value, read, rfl⟩ := Option.map_eq_some_iff.1 success
  exact holds_of_word64? here read

theorem holds_of_slice? {width : Nat} {run : List UInt8} (here : offset.toNat = position)
    (success : data.slice? offset width = some run) : data.Holds position run := by
  have length_eq := length_of_slice? success
  have read : data.nat? offset width = some (ofLE run) := by rw [nat?, success, Option.map_some]
  have held := holds_of_nat? here read
  rwa [← length_eq, toLE_ofLE] at held

end Bytes

namespace Node

variable {data : Bytes} {base : Nat}

theorem holds_of_key? {offset : Int} {position : Nat} {key : OrderKey} (low : 0 ≤ offset)
    (here : offset.toNat = position) (success : key? data offset = some key) :
    data.Holds position (Bytes.toLE 16 key.toNat) := by
  simp only [key?, bind, Option.bind_eq_some_iff] at success
  obtain ⟨sequence, sequence_eq, price, price_eq, ⟨⟩⟩ := success
  rw [OrderKey.toLE_toNat, Bytes.holds_append_iff, Bytes.length_toLE]
  exact ⟨Bytes.holds_of_word64? here sequence_eq, Bytes.holds_of_word64? (by omega) price_eq⟩

theorem holds_of_address? {offset : Int} {position : Nat} {owner : Address}
    (here : offset.toNat = position) (success : address? data offset = some owner) :
    data.Holds position owner.bytes.toList := by
  obtain ⟨run, read, kept⟩ := Option.bind_eq_some_iff.1 success
  unfold Address.ofList? at kept
  split at kept
  · cases kept
    exact Bytes.holds_of_slice? here read
  · cases kept

theorem laid_of_inner? {node : Inner} (success : inner? data base = some node) :
    data.Laid base node.fields := by
  simp only [inner?, bind, Option.bind_eq_some_iff] at success
  obtain ⟨prefixLen, prefixLen_eq, key, key_eq, lesser, lesser_eq, greater, greater_eq,
    lesserExpiry, lesserExpiry_eq, greaterExpiry, greaterExpiry_eq, ⟨⟩⟩ := success
  simp only [Bytes.Laid, Inner.fields, List.forall_mem_cons]
  exact ⟨Bytes.holds_of_word32? (by omega) prefixLen_eq,
    holds_of_key? (by omega) (by omega) key_eq, Bytes.holds_of_word32? (by omega) lesser_eq,
    Bytes.holds_of_word32? (by omega) greater_eq, Bytes.holds_of_word64? (by omega) lesserExpiry_eq,
    Bytes.holds_of_word64? (by omega) greaterExpiry_eq, List.forall_mem_nil _⟩

theorem laid_of_leaf? {node : Leaf} (success : leaf? data base = some node) :
    data.Laid base node.fields := by
  obtain ⟨-, inside⟩ := isSome_leaf?.1 (Option.isSome_of_eq_some success)
  have owner_eq : address? data (base + 24) = some (address data (base + 24)) :=
    address?_eq_some (by omega) (by omega)
  simp only [leaf?, bind, Option.bind_eq_some_iff] at success
  obtain ⟨ownerSlot, ownerSlot_eq, orderType, orderType_eq, version, version_eq, timeInForce,
    timeInForce_eq, key, key_eq, quantity, quantity_eq, clientOrderId, clientOrderId_eq, bestInitial,
    bestInitial_eq, timestamp, timestamp_eq, ⟨⟩⟩ := success
  simp only [Bytes.Laid, Leaf.fields, List.forall_mem_cons]
  exact ⟨Bytes.holds_of_byte? (by omega) ownerSlot_eq, Bytes.holds_of_byte? (by omega) orderType_eq,
    Bytes.holds_of_byte? (by omega) version_eq, Bytes.holds_of_byte? (by omega) timeInForce_eq,
    holds_of_key? (by omega) (by omega) key_eq, holds_of_address? (by omega) owner_eq,
    Bytes.holds_of_signed64? (by omega) quantity_eq,
    Bytes.holds_of_word64? (by omega) clientOrderId_eq,
    Bytes.holds_of_signed64? (by omega) bestInitial_eq,
    Bytes.holds_of_word64? (by omega) timestamp_eq, List.forall_mem_nil _⟩

/-- A node that is read stands in its slot, and its kind is the one that its first word names. -/
theorem laid_of_read? {node : Node} (success : read? data base = some node) :
    node.HasTag ∧ data.Laid base node.fields := by
  simp only [read?, bind, Option.bind_eq_some_iff] at success
  obtain ⟨tag, tagged, named⟩ := success
  have first : data.Holds (base + 0) (Bytes.toLE 4 tag.toNat) :=
    Bytes.holds_of_word32? (by omega) tagged
  split at named
  · cases named
    exact ⟨trivial, List.forall_mem_cons.2 ⟨first, List.forall_mem_nil _⟩⟩
  · obtain ⟨inner, inner_eq, ⟨⟩⟩ := Option.bind_eq_some_iff.1 named
    exact ⟨trivial, List.forall_mem_cons.2 ⟨first, laid_of_inner? inner_eq⟩⟩
  · obtain ⟨leaf, leaf_eq, ⟨⟩⟩ := Option.bind_eq_some_iff.1 named
    exact ⟨trivial, List.forall_mem_cons.2 ⟨first, laid_of_leaf? leaf_eq⟩⟩
  · obtain ⟨next, next_eq, ⟨⟩⟩ := Option.bind_eq_some_iff.1 named
    have link : data.Holds (base + 4) (Bytes.toLE 4 next.toNat) :=
      Bytes.holds_of_word32? (by omega) next_eq
    exact ⟨trivial, List.forall_mem_cons.2 ⟨first, List.forall_mem_singleton.2 link⟩⟩
  · obtain ⟨next, next_eq, ⟨⟩⟩ := Option.bind_eq_some_iff.1 named
    have link : data.Holds (base + 4) (Bytes.toLE 4 next.toNat) :=
      Bytes.holds_of_word32? (by omega) next_eq
    exact ⟨trivial, List.forall_mem_cons.2 ⟨first, List.forall_mem_singleton.2 link⟩⟩
  · rename_i zero one two three four
    cases named
    refine ⟨?_, List.forall_mem_cons.2 ⟨first, List.forall_mem_nil _⟩⟩
    rw [HasTag, UInt32.lt_iff_toNat_lt]
    simp only [← UInt32.toNat_inj, UInt32.reduceToNat, imp_false] at zero one two three four ⊢
    omega

end Node

namespace Header

/-- A header that is read stands at the front, its flag being any byte that is zero exactly when the
header says so. -/
theorem laid_of_read? {data : Bytes} {header : Header} (success : read? data = some header) :
    ∃ flag, data[2]? = some flag ∧ header.metadata.isInitialized = (flag != 0) ∧
      data.Laid 0 (header.fields flag) := by
  simp only [read?, metadata?, bind, Option.bind_eq_some_iff] at success
  obtain ⟨_, ⟨dataType, dataType_eq, version, version_eq, flag, flag_eq, extraInfo, extraInfo_eq,
    ⟨⟩⟩, bumpIndex, bumpIndex_eq, freeListLen, freeListLen_eq, freeListHead, freeListHead_eq,
    rootNode, rootNode_eq, leafCount, leafCount_eq, ⟨⟩⟩ := success
  have flagged : data.Holds 2 [flag] := Bytes.holds_of_byte? rfl flag_eq
  obtain ⟨run, run_eq, kept⟩ := Option.bind_eq_some_iff.1 extraInfo_eq
  have extra : data.Holds 3 run := Bytes.holds_of_slice? rfl run_eq
  split at kept
  · cases kept
    refine ⟨flag, flagged 0 (by simp), rfl, ?_⟩
    simp only [Bytes.Laid, fields, List.forall_mem_cons, Nat.zero_add]
    exact ⟨Bytes.holds_of_byte? rfl dataType_eq, Bytes.holds_of_byte? rfl version_eq, flagged,
      extra, Bytes.holds_of_word64? rfl bumpIndex_eq, Bytes.holds_of_word64? rfl freeListLen_eq,
      Bytes.holds_of_word32? rfl freeListHead_eq, Bytes.holds_of_word32? rfl rootNode_eq,
      Bytes.holds_of_word64? rfl leafCount_eq, List.forall_mem_nil _⟩
  · cases kept

end Header

/-! ## Fields in a row -/

namespace Field

/-- The position is one of the field's. -/
def Covers (field : Field) (position : Nat) : Prop :=
  field.offset ≤ position ∧ position < field.offset + field.run.length

/-- The first field ends where the second begins, or before. -/
def Before (first second : Field) : Prop := first.offset + first.run.length ≤ second.offset

/-- The field counted from further ahead. -/
def shift (base : Nat) (field : Field) : Field := ⟨base + field.offset, field.run⟩

instance (field : Field) (position : Nat) : Decidable (field.Covers position) :=
  inferInstanceAs (Decidable (field.offset ≤ position ∧ position < field.offset + field.run.length))

end Field

/-- The fields lie one after the other between two positions. -/
structure InRow (low high : Nat) (fields : List Field) : Prop where
  ordered : fields.Pairwise Field.Before
  inside : ∀ field ∈ fields, low ≤ field.offset ∧ field.offset + field.run.length ≤ high

namespace InRow

variable {low middle high : Nat} {fields : List Field}

theorem mono (row : InRow low middle fields) (le_high : middle ≤ high) : InRow low high fields where
  ordered := row.ordered
  inside := fun field here =>
    ⟨(row.inside field here).1, Nat.le_trans (row.inside field here).2 le_high⟩

theorem append {later : List Field} (first : InRow low middle fields)
    (second : InRow middle high later) (low_le : low ≤ middle) (le_high : middle ≤ high) :
    InRow low high (fields ++ later) where
  ordered := by
    refine List.pairwise_append.2 ⟨first.ordered, second.ordered, fun field here next there => ?_⟩
    exact Nat.le_trans (first.inside field here).2 (second.inside next there).1
  inside := by
    intro field member
    rcases List.mem_append.1 member with here | there
    · exact ⟨(first.inside field here).1, Nat.le_trans (first.inside field here).2 le_high⟩
    · exact ⟨Nat.le_trans low_le (second.inside field there).1, (second.inside field there).2⟩

theorem shift (row : InRow low high fields) (base : Nat) :
    InRow (base + low) (base + high) (fields.map (Field.shift base)) where
  ordered := by
    refine List.pairwise_map.2 (row.ordered.imp fun {first second} before => ?_)
    simp only [Field.Before, Field.shift] at before ⊢
    omega
  inside := by
    intro moved member
    obtain ⟨field, here, rfl⟩ := List.mem_map.1 member
    have bounds := row.inside field here
    simp only [Field.shift]
    omega

end InRow

theorem Header.fields_inRow (header : Header) (flag : UInt8) :
    InRow 0 Header.length (header.fields flag) where
  ordered := by simp [Header.fields, Field.Before]
  inside := by simp [Header.fields, Header.length]

/-- The fields of a node lie in the bytes that a node with its tag takes. -/
theorem Node.fields_inRow_extent (node : Node) : InRow 0 (extent node.tag) node.fields where
  ordered := by cases node <;> simp [Node.fields, Inner.fields, Leaf.fields, Field.Before]
  inside := by
    cases node with
    | uninitialized => simp [Node.fields, tag, extent]
    | inner node => simp [Node.fields, Inner.fields, tag, extent]
    | leaf node => simp [Node.fields, Leaf.fields, tag, extent]
    | free next last => cases last <;> simp [Node.fields, tag, extent]
    | unknown given => simpa [Node.fields, tag] using four_le_extent given

theorem Node.fields_inRow (node : Node) : InRow 0 Node.length node.fields :=
  node.fields_inRow_extent.mono (extent_le_length node.tag)

/-! ## Writing -/

namespace Bytes

variable {data : Bytes} {offset position : Nat} {fields : List Field}

theorem getElem?_overwrite (data : Bytes) (offset : Nat) (run : List UInt8) (position : Nat) :
    (data.overwrite offset run)[position]? =
      if offset ≤ position ∧ position < offset + run.length ∧ position < data.size then
        run[position - offset]?
      else data[position]? := by
  induction run generalizing data offset with
  | nil =>
    rw [overwrite, if_neg]
    simp only [List.length_nil]
    omega
  | cons byte rest ih =>
    rw [overwrite, ih, Array.size_setIfInBounds, List.length_cons]
    by_cases here : position = offset
    · subst here
      rw [if_neg (by omega), Array.getElem?_setIfInBounds_self]
      by_cases inside : position < data.size
      · rw [if_pos inside, if_pos (by omega), Nat.sub_self, List.getElem?_cons_zero]
      · rw [if_neg inside, if_neg (by omega), Array.getElem?_eq_none (by omega)]
    · rw [Array.getElem?_setIfInBounds_ne (Ne.symm here)]
      by_cases covered : offset + 1 ≤ position ∧ position < offset + 1 + rest.length ∧
          position < data.size
      · rw [if_pos covered, if_pos (by omega)]
        obtain ⟨further, equal⟩ : ∃ further, position - offset = further + 1 :=
          ⟨position - (offset + 1), by omega⟩
        rw [equal, List.getElem?_cons_succ]
        congr 1
        omega
      · rw [if_neg covered, if_neg (by omega)]

theorem size_overwrite (data : Bytes) (offset : Nat) (run : List UInt8) :
    (data.overwrite offset run).size = data.size := by
  induction run generalizing data offset with
  | nil => rfl
  | cons byte rest ih => rw [overwrite, ih, Array.size_setIfInBounds]

/-- Writes every field at its offset. -/
def write (data : Bytes) : List Field → Bytes
  | [] => data
  | field :: rest => write (data.overwrite field.offset field.run) rest

theorem size_write (data : Bytes) (fields : List Field) : (data.write fields).size = data.size := by
  induction fields generalizing data with
  | nil => rfl
  | cons field rest ih => rw [write, ih, size_overwrite]

theorem getElem?_write_of_uncovered (data : Bytes)
    (uncovered : ∀ field ∈ fields, ¬ field.Covers position) :
    (data.write fields)[position]? = data[position]? := by
  induction fields generalizing data with
  | nil => rfl
  | cons field rest ih =>
    have here : ¬ field.Covers position := uncovered field List.mem_cons_self
    rw [write, ih _ fun other member => uncovered other (List.mem_cons_of_mem _ member),
      getElem?_overwrite, if_neg]
    exact fun ⟨low, high, _⟩ => here ⟨low, high⟩

/-- What is written into a field stays there, since no later field comes near. -/
theorem getElem?_write_of_covers {low high : Nat} {field : Field} (row : InRow low high fields)
    (fits : high ≤ data.size) (member : field ∈ fields) (covers : field.Covers position) :
    (data.write fields)[position]? = field.run[position - field.offset]? := by
  induction fields generalizing data with
  | nil => cases member
  | cons first rest ih =>
    obtain ⟨before, ordered⟩ := List.pairwise_cons.1 row.ordered
    have inside := row.inside field member
    obtain ⟨after, up_to⟩ := covers
    rw [write]
    rcases List.mem_cons.1 member with rfl | later
    -- the fields that come later lie further on
    · rw [getElem?_write_of_uncovered, getElem?_overwrite, if_pos ⟨after, up_to, by omega⟩]
      intro other there ⟨other_after, _⟩
      have apart : field.offset + field.run.length ≤ other.offset := before other there
      omega
    · refine ih ⟨ordered, fun other there => ?_⟩ (by rwa [size_overwrite]) later
      exact row.inside other (List.mem_cons_of_mem _ there)

theorem laid_write {low high : Nat} (row : InRow low high fields) (fits : high ≤ data.size) :
    (data.write fields).Laid 0 fields := by
  intro field member i inside
  rw [getElem?_write_of_covers row fits member ⟨by omega, by omega⟩]
  congr 1
  omega

theorem laid_append_iff {base : Nat} {later : List Field} :
    data.Laid base (fields ++ later) ↔ data.Laid base fields ∧ data.Laid base later := by
  simp only [Laid, List.forall_mem_append]

theorem laid_map_shift_iff {base ahead : Nat} :
    data.Laid base (fields.map (Field.shift ahead)) ↔ data.Laid (base + ahead) fields := by
  simp only [Laid, List.forall_mem_map, Field.shift, Nat.add_assoc]

end Bytes

/-! ## Whole accounts -/

namespace BookSide

variable {data : Bytes}

/-- The fields of nodes in neighbouring slots, the first of which is given. -/
def slotFields : (slot : Nat) → List Node → List Field
  | _, [] => []
  | slot, node :: rest => node.fields.map (Field.shift (size slot)) ++ slotFields (slot + 1) rest

/-- All fields of an account, from its front on. -/
def fields (header : Header) (flag : UInt8) (nodes : List Node) : List Field :=
  header.fields flag ++ slotFields 0 nodes

/-- The bytes of an account: header and nodes, and between their fields what was there before. -/
def encode (header : Header) (flag : UInt8) (nodes : List Node) (padding : Bytes) : Bytes :=
  padding.write (fields header flag nodes)

theorem size_succ (slots : Nat) : size (slots + 1) = size slots + Node.length := by
  simp only [size, Node.length]
  omega

theorem size_mono {fewer more : Nat} (le : fewer ≤ more) : size fewer ≤ size more :=
  Nat.add_le_add_left (Nat.mul_le_mul_left _ le) _

theorem slotFields_inRow (slot : Nat) (nodes : List Node) :
    InRow (size slot) (size (slot + nodes.length)) (slotFields slot nodes) := by
  induction nodes generalizing slot with
  | nil => exact ⟨List.Pairwise.nil, List.forall_mem_nil _⟩
  | cons node rest ih =>
    have first := node.fields_inRow.shift (size slot)
    have later := ih (slot + 1)
    rw [Nat.add_zero, ← size_succ] at first
    rw [Nat.add_assoc, Nat.add_comm 1] at later
    exact first.append later (size_mono (by omega)) (size_mono (by simp))

theorem fields_inRow (header : Header) (flag : UInt8) (nodes : List Node) :
    InRow 0 (size nodes.length) (fields header flag nodes) := by
  have slots := slotFields_inRow 0 nodes
  rw [Nat.zero_add] at slots
  exact (header.fields_inRow flag).append slots (Nat.zero_le _) (size_mono (Nat.zero_le _))

theorem laid_slotFields_iff {slot : Nat} {nodes : List Node} :
    data.Laid 0 (slotFields slot nodes) ↔
      ∀ i node, nodes[i]? = some node → data.Laid (size (slot + i)) node.fields := by
  induction nodes generalizing slot with
  | nil => simp [slotFields, Bytes.Laid]
  | cons first rest ih =>
    rw [slotFields, Bytes.laid_append_iff, Bytes.laid_map_shift_iff, ih, Nat.zero_add]
    constructor
    · rintro ⟨here, later⟩ i node there
      cases i with
      | zero =>
        obtain rfl : first = node := Option.some.inj there
        exact here
      | succ i =>
        rw [Nat.add_comm i 1, ← Nat.add_assoc]
        exact later i node there
    · intro laid
      refine ⟨laid 0 first rfl, fun i node there => ?_⟩
      rw [Nat.add_assoc, Nat.add_comm 1]
      exact laid (i + 1) node there

/-- An account of which all fields stand at their places is decoded to them. -/
theorem decode_of_laid (account : Account) (market : Market) {header : Header} {flag : UInt8}
    {nodes : List Node} (slots : 1 ≤ nodes.length) (size_eq : data.size = size nodes.length)
    (flag_eq : header.metadata.isInitialized = (flag != 0)) (hasTag : ∀ node ∈ nodes, node.HasTag)
    (laid : data.Laid 0 (fields header flag nodes)) :
    decode { account with data } market (.whole nodes.length) =
      .ok ⟨account.address, market, header, nodes.toArray⟩ := by
  obtain ⟨front, back⟩ := Bytes.laid_append_iff.1 laid
  refine decode_eq_ok_iff.2 ⟨nodes.length, Capacity.slots_whole slots, size_eq,
    Header.read?_of_laid front flag_eq, List.size_toArray, fun i inside => ?_, rfl, rfl⟩
  have here := laid_slotFields_iff.1 back i nodes[i] (List.getElem?_eq_getElem inside)
  rw [Nat.zero_add] at here
  rw [Node.read?_of_laid (hasTag _ (List.getElem_mem inside)) here]
  simp [inside]

/-- Every field of a decoded account stands at its place. -/
theorem laid_of_decode {account : Account} {market : Market} {capacity : Capacity}
    {side : BookSide} (decoded : decode account market capacity = .ok side) :
    (∀ node ∈ side.nodes.toList, node.HasTag) ∧
      ∃ flag, account.data[2]? = some flag ∧ side.header.metadata.isInitialized = (flag != 0) ∧
        account.data.Laid 0 (fields side.header flag side.nodes.toList) := by
  obtain ⟨_, -, -, header_eq, rfl, read, -, -⟩ := decode_eq_ok_iff.1 decoded
  have stands : ∀ (i : Nat) (node : Node), side.nodes.toList[i]? = some node →
      node.HasTag ∧ account.data.Laid (size i) node.fields := by
    intro i node there
    rw [Array.getElem?_toList] at there
    have inside := (Array.getElem?_eq_some_iff.1 there).1
    exact Node.laid_of_read? ((read i inside).trans there)
  obtain ⟨flag, found, flag_eq, front⟩ := Header.laid_of_read? header_eq
  refine ⟨fun node member => ?_, flag, found, flag_eq, ?_⟩
  · obtain ⟨i, there⟩ := List.mem_iff_getElem?.1 member
    exact (stands i node there).1
  · refine Bytes.laid_append_iff.2 ⟨front, laid_slotFields_iff.2 fun i node there => ?_⟩
    rw [Nat.zero_add]
    exact (stands i node there).2

/-- Only the flag's own field depends on the flag. -/
theorem mem_fields_of_flag {header : Header} {flag : UInt8} {nodes : List Node} {field : Field}
    (member : field ∈ fields header flag nodes) (other : UInt8) :
    field = ⟨2, [flag]⟩ ∨ field ∈ fields header other nodes := by
  simp only [fields, Header.fields, List.mem_append, List.mem_cons, List.not_mem_nil,
    or_false] at member ⊢
  grind

/-- Two buffers agree at a position, or it is that of the flag and both flags mean the same. -/
def AgreesAt (first second : Bytes) (position : Nat) : Prop :=
  ∃ here there, first[position]? = some here ∧ second[position]? = some there ∧
    (here = there ∨ position = 2 ∧ (here != 0) = (there != 0))

/-- Writing what was decoded gives every byte of a field again, whatever the padding. -/
theorem agreesAt_encode {account : Account} {market : Market} {capacity : Capacity}
    {side : BookSide} (decoded : decode account market capacity = .ok side) {flag : UInt8}
    (flag_eq : side.header.metadata.isInitialized = (flag != 0)) {padding : Bytes}
    (fits : padding.size = size side.nodes.toList.length) {position : Nat}
    (covered : ∃ field ∈ fields side.header flag side.nodes.toList, field.Covers position) :
    AgreesAt (encode side.header flag side.nodes.toList padding) account.data position := by
  obtain ⟨-, stored, found, stored_eq, laid⟩ := laid_of_decode decoded
  obtain ⟨field, member, covers⟩ := covered
  have written := Bytes.getElem?_write_of_covers (fields_inRow side.header flag side.nodes.toList)
    (Nat.le_of_eq fits.symm) member covers
  rcases mem_fields_of_flag member stored with rfl | shared
  · obtain ⟨low, high⟩ := covers
    obtain rfl : position = 2 := by
      dsimp only [List.length_singleton] at low high
      omega
    exact ⟨flag, stored, written, found, .inr ⟨rfl, flag_eq.symm.trans stored_eq⟩⟩
  · obtain ⟨low, high⟩ := covers
    have stands := laid field shared (position - field.offset) (by omega)
    rw [Nat.zero_add, Nat.add_sub_cancel' low, List.getElem?_eq_getElem (by omega)] at stands
    rw [List.getElem?_eq_getElem (by omega)] at written
    exact ⟨_, _, written, stands, .inl rfl⟩

/-- Decoding and writing undo each other.  Header and nodes are decoded from what is written of
them, over any padding, which stays between their fields.  Every buffer of the right size is decoded,
and writing what was decoded gives each byte of a field again, up to flags that mean the same. -/
theorem decode_encode_inverse (account : Account) (market : Market) {capacity : Nat}
    (positive : 1 ≤ capacity) :
    (∀ header flag nodes padding, nodes.length = capacity → (∀ node ∈ nodes, node.HasTag) →
      header.metadata.isInitialized = (flag != 0) → padding.size = size capacity →
        decode { account with data := encode header flag nodes padding } market
            (.whole capacity) = .ok ⟨account.address, market, header, nodes.toArray⟩ ∧
          (encode header flag nodes padding).size = size capacity ∧
          ∀ position, (∀ field ∈ fields header flag nodes, ¬ field.Covers position) →
            (encode header flag nodes padding)[position]? = padding[position]?) ∧
      ∀ data : Bytes, data.size = size capacity →
        ∃ header nodes, decode { account with data } market (.whole capacity) =
            .ok ⟨account.address, market, header, nodes.toArray⟩ ∧
          nodes.length = capacity ∧ (∀ node ∈ nodes, node.HasTag) ∧
          ∀ flag padding, header.metadata.isInitialized = (flag != 0) →
            padding.size = size capacity →
              ∀ position, (∃ field ∈ fields header flag nodes, field.Covers position) →
                AgreesAt (encode header flag nodes padding) data position := by
  constructor
  · rintro header flag nodes padding rfl hasTag flag_eq fits
    have size_eq : (encode header flag nodes padding).size = size nodes.length := by
      rw [encode, Bytes.size_write, fits]
    have laid := Bytes.laid_write (fields_inRow header flag nodes) (Nat.le_of_eq fits.symm)
    refine ⟨decode_of_laid account market positive size_eq flag_eq hasTag laid, size_eq,
      fun position uncovered => ?_⟩
    exact Bytes.getElem?_write_of_uncovered padding uncovered
  · intro data size_eq
    have whole : (Capacity.whole capacity).slots = .ok capacity := by
      rw [Capacity.slots, if_pos (by omega), Int.toNat_natCast]
    obtain ⟨side, decoded⟩ := @exists_decode { account with data } market _ _ whole size_eq
    obtain ⟨slots, slots_eq, -, -, count, -, address_eq, market_eq⟩ := decode_eq_ok_iff.1 decoded
    obtain rfl : capacity = slots := Except.ok.inj (whole.symm.trans slots_eq)
    have length_eq : side.nodes.toList.length = capacity := count
    refine ⟨side.header, side.nodes.toList, ?_, length_eq, (laid_of_decode decoded).1, ?_⟩
    · rw [decoded, ← market_eq]
      obtain ⟨address, market, header, nodes⟩ := side
      obtain rfl : address = account.address := address_eq
      rfl
    · intro flag padding flag_eq fits position covered
      exact agreesAt_encode decoded flag_eq (by rw [fits, length_eq]) covered

/-- A header whose parts are all different, with a list of free slots. -/
def sampleHeader : Header := ⟨⟨6, 1, true, ⟨#[1, 2, 3, 4, 5], rfl⟩⟩, 0x10000000000, 3, 4, 1,
  0x8000000000000000⟩

/-- A leaf whose quantity is negative, a free slot, and a slot of an unknown kind. -/
def sampleNodes : List Node :=
  [.leaf ⟨1, 4, 3, 2, ⟨7, 0x8000000000000000⟩, .fill 9, -2, 5, -0x4000000000000000, 6⟩,
    .free 2 true, .unknown 0xffffffff]

theorem decode_encode_inverse_sample :
    decode ⟨.fill 1, encode sampleHeader 0x80 sampleNodes (Array.replicate 304 0xee), none, none⟩
        ⟨6, 6, 100, 10⟩ (.whole 3) =
        .ok ⟨.fill 1, ⟨6, 6, 100, 10⟩, sampleHeader, sampleNodes.toArray⟩ ∧
      ∃ header nodes, decode ⟨.fill 1, Array.replicate 304 0x02, none, none⟩
          ⟨6, 6, 100, 10⟩ (.whole 3) = .ok ⟨.fill 1, ⟨6, 6, 100, 10⟩, header, nodes.toArray⟩ ∧
        ∀ flag padding, header.metadata.isInitialized = (flag != 0) → padding.size = size 3 →
          ∀ position, (∃ field ∈ fields header flag nodes, field.Covers position) →
            AgreesAt (encode header flag nodes padding) (Array.replicate 304 0x02) position := by
  obtain ⟨written, read⟩ :=
    decode_encode_inverse { address := .fill 1, data := #[] } ⟨6, 6, 100, 10⟩
      (show 1 ≤ 3 by decide)
  have hasTag : ∀ node ∈ sampleNodes, node.HasTag := by
    simp only [sampleNodes, List.forall_mem_cons]
    exact ⟨trivial, trivial, show (4 : UInt32) < 0xffffffff by decide, List.forall_mem_nil _⟩
  obtain ⟨header, nodes, decoded, -, -, again⟩ :=
    read (Array.replicate 304 0x02) Array.size_replicate
  exact ⟨(written sampleHeader 0x80 sampleNodes (Array.replicate 304 0xee) rfl hasTag rfl
    Array.size_replicate).1, header, nodes, decoded, again⟩

end BookSide
end SlabBook

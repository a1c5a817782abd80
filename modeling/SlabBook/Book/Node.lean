import SlabBook.Bytes
import SlabBook.Address
import SlabBook.Book.Error

/-!
# Slab nodes

A slab is an array of 88-byte slots.  A slot holds a node of a tree of orders (an inner node with
two children, or a leaf with one order), a link of the list of free slots, or nothing yet; its
first word says which.  Reading a node takes exactly the bytes that its kind needs and fails if
one of them is missing.  A first word that names no kind is kept as it is: only a walk that meets
it objects.
-/

namespace SlabBook

/-- Orders are keyed by price and, within one price, by a sequence number. -/
structure OrderKey where
  price : UInt64
  sequence : UInt64
  deriving DecidableEq, Repr

namespace OrderKey

/-- The 128-bit number that is the order's id. -/
def toNat (key : OrderKey) : Nat := key.price.toNat * UInt64.size + key.sequence.toNat

/-- What is left of an id without its low 64 bits, for an id of any size and sign. -/
def idPrice (id : Int) : Int := id / UInt64.size

/-- The low 64 bits of an id, which are never negative. -/
def idSequence (id : Int) : Int := id % UInt64.size

theorem idPrice_toNat (key : OrderKey) : idPrice key.toNat = key.price.toNat := by
  have bound := key.sequence.toNat_lt
  simp only [idPrice, toNat, UInt64.size]
  omega

theorem idSequence_toNat (key : OrderKey) : idSequence key.toNat = key.sequence.toNat := by
  have bound := key.sequence.toNat_lt
  simp only [idSequence, toNat, UInt64.size]
  omega

end OrderKey

/-- Every key below `lesser` is less than every key below `greater`. -/
structure Inner where
  prefixLen : UInt32
  key : OrderKey
  lesser : UInt32
  greater : UInt32
  lesserExpiry : UInt64
  greaterExpiry : UInt64
  deriving DecidableEq, Repr

structure Leaf where
  ownerSlot : UInt8
  orderType : UInt8
  version : UInt8
  timeInForce : UInt8
  key : OrderKey
  owner : Address
  quantity : Int64
  clientOrderId : UInt64
  bestInitial : Int64
  timestamp : UInt64
  deriving DecidableEq, Repr

inductive Node where
  | uninitialized
  | inner (node : Inner)
  | leaf (node : Leaf)
  | free (next : UInt32) (last : Bool)
  | unknown (tag : UInt32)
  deriving DecidableEq, Repr

namespace Node

def length : Nat := 88

/-- A key is stored low word first, the sequence before the price. -/
def key? (data : Bytes) (offset : Int) : Option OrderKey := do
  let sequence ← data.word64? offset
  let price ← data.word64? (offset + 8)
  return ⟨price, sequence⟩

/-- The address at an offset.  This read never fails: where the buffer ends within the address, the bytes
up to there are taken for a shorter number. -/
def address (data : Bytes) (offset : Int) : Address :=
  .ofShort (data.clip offset 32) (data.length_clip_le offset 32)

def inner? (data : Bytes) (offset : Int) : Option Inner := do
  let prefixLen ← data.word32? (offset + 4)
  let key ← key? data (offset + 8)
  let lesser ← data.word32? (offset + 24)
  let greater ← data.word32? (offset + 28)
  let lesserExpiry ← data.word64? (offset + 32)
  let greaterExpiry ← data.word64? (offset + 40)
  return ⟨prefixLen, key, lesser, greater, lesserExpiry, greaterExpiry⟩

def leaf? (data : Bytes) (offset : Int) : Option Leaf := do
  let ownerSlot ← data.byte? (offset + 4)
  let orderType ← data.byte? (offset + 5)
  let version ← data.byte? (offset + 6)
  let timeInForce ← data.byte? (offset + 7)
  let key ← key? data (offset + 8)
  let owner := address data (offset + 24)
  let quantity ← data.signed64? (offset + 56)
  let clientOrderId ← data.word64? (offset + 64)
  let bestInitial ← data.signed64? (offset + 72)
  let timestamp ← data.word64? (offset + 80)
  return ⟨ownerSlot, orderType, version, timeInForce, key, owner, quantity, clientOrderId,
    bestInitial, timestamp⟩

/-- The node at a byte offset, or nothing where the buffer ends within it. -/
def read? (data : Bytes) (offset : Int) : Option Node := do
  let tag ← data.word32? offset
  match tag with
  | 0 => return .uninitialized
  | 1 => return .inner (← inner? data offset)
  | 2 => return .leaf (← leaf? data offset)
  | 3 => return .free (← data.word32? (offset + 4)) false
  | 4 => return .free (← data.word32? (offset + 4)) true
  | tag => return .unknown tag

/-- The node at a byte offset; a buffer that ends within it is refused. -/
def decode (data : Bytes) (offset : Int) : Except PayloadError Node :=
  match read? data offset with
  | some node => .ok node
  | none => .error .outOfBounds

end Node
end SlabBook

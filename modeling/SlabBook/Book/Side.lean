import SlabBook.Account
import SlabBook.Market
import SlabBook.Book.Error
import SlabBook.Book.Node

/-!
# Book side accounts

A book side account is a header of 40 bytes and a slab of as many slots as its capacity says.
Decoding refuses an account of any other length and checks nothing else about its bytes.
-/

namespace SlabBook

structure Metadata where
  dataType : UInt8
  version : UInt8
  isInitialized : Bool
  extraInfo : Vector UInt8 5
  deriving DecidableEq, Repr

structure Header where
  metadata : Metadata
  bumpIndex : UInt64
  freeListLen : UInt64
  freeListHead : UInt32
  rootNode : UInt32
  leafCount : UInt64
  deriving DecidableEq, Repr

structure BookSide where
  address : Address
  market : Market
  header : Header
  nodes : Array Node
  deriving DecidableEq, Repr

namespace Capacity

/-- The number of slots of a capacity that is a positive whole number. -/
def slots : Capacity → Except PayloadError Nat
  | .whole count => if 1 ≤ count then .ok count.toNat else .error (.capacity (.whole count))
  | given => .error (.capacity given)

end Capacity

namespace Header

def length : Nat := 40

def extraInfo? (data : Bytes) : Option (Vector UInt8 5) :=
  (data.slice? 3 5).bind fun run =>
    if exact : run.length = 5 then some ⟨run.toArray, by simp [exact]⟩ else none

def metadata? (data : Bytes) : Option Metadata := do
  let dataType ← data.byte? 0
  let version ← data.byte? 1
  let isInitialized ← data.byte? 2
  let extraInfo ← extraInfo? data
  return ⟨dataType, version, isInitialized != 0, extraInfo⟩

def read? (data : Bytes) : Option Header := do
  let metadata ← metadata? data
  let bumpIndex ← data.word64? 8
  let freeListLen ← data.word64? 16
  let freeListHead ← data.word32? 24
  let rootNode ← data.word32? 28
  let leafCount ← data.word64? 32
  return ⟨metadata, bumpIndex, freeListLen, freeListHead, rootNode, leafCount⟩

end Header

namespace BookSide

/-- The length of an account with the given number of slots. -/
def size (slots : Nat) : Nat := Header.length + Node.length * slots

/-- The length as it is reported: the slots and then the header are counted in binary64, which is
exact as long as the length is below `2 ^ 53`. -/
def reportedSize (slots : Nat) : Binary64 :=
  (Binary64.ofNat (Node.length * slots)).addNat Header.length

/-- Reads the next `count` slots after those already read. -/
def readNodes? (data : Bytes) : (count : Nat) → (read : Array Node) → Option (Array Node)
  | 0, read => some read
  | count + 1, read => do
    let node ← Node.read? data (size read.size)
    readNodes? data count (read.push node)

def decode (account : Account) (market : Market) (capacity : Capacity) :
    Except PayloadError BookSide :=
  match capacity.slots with
  | .error cause => .error cause
  | .ok slots =>
    if account.data.size = size slots then
      match Header.read? account.data, readNodes? account.data slots #[] with
      | some header, some nodes => .ok ⟨account.address, market, header, nodes⟩
      | _, _ => .error .outOfBounds
    else .error (.sizeMismatch account.data.size (reportedSize slots))

def kind (side : BookSide) : SideKind := .ofDataType side.header.metadata.dataType

def orderSide (side : BookSide) : OrderSide := side.kind.orderSide

end BookSide
end SlabBook

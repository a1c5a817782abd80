import SlabBook.Book.Walk

/-!
# Orders

An order is a leaf as its market sees it: priced and sized in decimal amounts.  `decodeOrders` is
all or nothing: a damaged side yields no order at all.
-/

namespace SlabBook

structure Order where
  key : OrderKey
  clientOrderId : UInt64
  owner : Address
  side : OrderSide
  price : Decimal
  quantity : Decimal
  orderType : OrderType
  timestamp : UInt64
  deriving DecidableEq, Repr

/-- The written form of an order, every field a text. -/
structure OrderRecord where
  id : String
  clientOrderId : String
  owner : String
  side : String
  price : String
  quantity : String
  orderType : String
  sequence : String
  timestamp : String
  deriving DecidableEq, Repr

namespace Order

def ofLeaf (market : Market) (side : OrderSide) (leaf : Leaf) : Order where
  key := leaf.key
  clientOrderId := leaf.clientOrderId
  owner := leaf.owner
  side := side
  price := market.price leaf.key.price.toNat
  quantity := market.quantity leaf.quantity.toInt
  orderType := .ofCode leaf.orderType
  timestamp := leaf.timestamp

def record (order : Order) : OrderRecord where
  id := Digits.toText order.key.toNat
  clientOrderId := Digits.toText order.clientOrderId.toNat
  owner := order.owner.toText
  side := order.side.toText
  price := order.price.toText
  quantity := order.quantity.toText
  orderType := order.orderType.toText
  sequence := Digits.toText order.key.sequence.toNat
  timestamp := Digits.toText order.timestamp.toNat

/-- One line of a described book. -/
def line (order : Order) : String :=
  let r := order.record
  s!"  {r.side} {r.quantity} @ {r.price} id={r.id} client={r.clientOrderId} owner={r.owner}"

/-- Quantity and price alone. -/
def brief (order : Order) : String := s!"{order.quantity.toText}@{order.price.toText}"

end Order

namespace Walk

def orders (walk : Walk) (side : BookSide) : List Order :=
  walk.leaves.toList.map fun found => .ofLeaf side.market side.orderSide found.2

end Walk

namespace BookSide

/-- The orders of the whole side, unless it is damaged. -/
def orders (side : BookSide) : Except Corruption (List Order) :=
  let walk := side.walk
  match walk.ending with
  | .corrupt cause => .error cause
  | _ => .ok (walk.orders side)

/-- The order that comes first: the highest bid or the lowest ask. -/
def best (side : BookSide) : Except Corruption (Option Order) :=
  side.first?.map fun found? => found?.map fun found => .ofLeaf side.market side.orderSide found.2

def headerLines (side : BookSide) : List String :=
  let h := side.header
  [s!"BookSide {side.kind.toText} [{side.address.toText}]",
    s!"  Version: {h.metadata.version} Initialized: {h.metadata.isInitialized}",
    s!"  Bump Index: {h.bumpIndex}",
    s!"  Free List: {h.freeListHead} (head) {h.freeListLen} (length)",
    s!"  Root Node: {h.rootNode}",
    s!"  Leaf Count: {h.leafCount}"]

/-- The header and the first orders, with a mark where there are more than `depth`. -/
def describe (side : BookSide) (depth : Nat) : Except Corruption String :=
  let seen := side.glimpse depth
  let lines := side.headerLines ++ (seen.orders side).map Order.line
  match seen.ending with
  | .corrupt cause => .error cause
  | .stopped => .ok ("\n".intercalate (lines ++ ["  ..."]))
  | .complete => .ok ("\n".intercalate lines)

end BookSide

/-- The orders of an account that holds the wanted side. -/
def decodeOrders (account : Account) (kind : SideKind) (market : Market) (capacity : Capacity) :
    Except PayloadError (List Order) :=
  match BookSide.decode account market capacity with
  | .error cause => .error cause
  | .ok side =>
    if side.kind = kind then
      match side.orders with
      | .error cause => .error (.corruptTree cause)
      | .ok orders => .ok orders
    else .error (.sideMismatch kind side.kind)

end SlabBook

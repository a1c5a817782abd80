/-!
# Sides of a book and kinds of order

An account holds either the bids or the asks of a market; bids buy and asks sell.  An order's
type is one byte, of which five values have a meaning.
-/

namespace SlabBook

inductive SideKind where
  | bids | asks
  deriving DecidableEq, Repr

inductive OrderSide where
  | buy | sell
  deriving DecidableEq, Repr

inductive OrderType where
  | limit | ioc | postOnly | market | postOnlySlide | unknown
  deriving DecidableEq, Repr

namespace SideKind

def toText : SideKind → String
  | .bids => "bids"
  | .asks => "asks"

def ofText? (text : String) : Option SideKind :=
  if text = "bids" then some .bids else if text = "asks" then some .asks else none

def orderSide : SideKind → OrderSide
  | .bids => .buy
  | .asks => .sell

/-- Only one code stands for bids; every other account of the right size reads as asks. -/
def ofDataType (code : UInt8) : SideKind := if code = 5 then .bids else .asks

end SideKind

namespace OrderSide

def toText : OrderSide → String
  | .buy => "buy"
  | .sell => "sell"

end OrderSide

namespace OrderType

def ofCode (code : UInt8) : OrderType :=
  match code with
  | 0 => .limit
  | 1 => .ioc
  | 2 => .postOnly
  | 3 => .market
  | 4 => .postOnlySlide
  | _ => .unknown

def toText : OrderType → String
  | .limit => "limit"
  | .ioc => "ioc"
  | .postOnly => "post_only"
  | .market => "market"
  | .postOnlySlide => "post_only_slide"
  | .unknown => "unknown"

end OrderType
end SlabBook

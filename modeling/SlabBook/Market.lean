import SlabBook.Number.Decimal

/-!
# Markets and scaling

An order counts its price in quote lots per base lot and its quantity in base lots.  A market
says how many native units a lot is and how many decimals a unit has, and so turns both into
decimal amounts.
-/

namespace SlabBook

structure Market where
  baseDecimals : Int
  quoteDecimals : Int
  baseLotSize : Int
  quoteLotSize : Int
  deriving DecidableEq, Repr

inductive MarketError where
  | baseLotSize | quoteLotSize | baseDecimals | quoteDecimals
  deriving DecidableEq, Repr

namespace MarketError

def message : MarketError → String
  | .baseLotSize => "base_lot_size_invalid"
  | .quoteLotSize => "quote_lot_size_invalid"
  | .baseDecimals => "base_decimals_invalid"
  | .quoteDecimals => "quote_decimals_invalid"

end MarketError

/-- A market as described from outside, where decimals need not be whole numbers. -/
structure MarketDescription where
  baseDecimals : Option Int
  quoteDecimals : Option Int
  baseLotSize : Int
  quoteLotSize : Int
  deriving DecidableEq, Repr

namespace MarketDescription

/-- Decimals that are a whole number of one byte. -/
def byteDecimals? (decimals : Option Int) : Option Int :=
  decimals.filter fun d => decide (0 ≤ d ∧ d ≤ 255)

/-- Lots are checked before decimals and the base before the quote. -/
def check (given : MarketDescription) : Except MarketError Market :=
  if given.baseLotSize ≤ 0 then .error .baseLotSize
  else if given.quoteLotSize ≤ 0 then .error .quoteLotSize
  else
    match byteDecimals? given.baseDecimals, byteDecimals? given.quoteDecimals with
    | none, _ => .error .baseDecimals
    | some _, none => .error .quoteDecimals
    | some base, some quote => .ok ⟨base, quote, given.baseLotSize, given.quoteLotSize⟩

end MarketDescription

namespace Market

def describe (market : Market) : MarketDescription :=
  ⟨some market.baseDecimals, some market.quoteDecimals, market.baseLotSize, market.quoteLotSize⟩

def check (market : Market) : Except MarketError Market := market.describe.check

/-- `native * quoteLotSize * 10 ^ (baseDecimals - quoteDecimals) / baseLotSize`, rounded after
each step. -/
def price (market : Market) (native : Int) : Decimal :=
  .ofInt native * .ofInt market.quoteLotSize *
    .powerOfTen (market.baseDecimals - market.quoteDecimals) / .ofInt market.baseLotSize

/-- `native * baseLotSize / 10 ^ baseDecimals`, rounded after each step. -/
def quantity (market : Market) (native : Int) : Decimal :=
  .ofInt native * .ofInt market.baseLotSize / .powerOfTen market.baseDecimals

end Market
end SlabBook

import SlabBook.Number.Rounding

/-!
# Decimal numbers of 80 significant digits

A finite number is a signed coefficient times a power of ten.  Numbers made from integers and
powers of ten are exact, whatever their length; products and quotients are rounded to 80
significant digits, a half to the even neighbour, and carry no trailing zeros.  Zero has a sign,
which only a division by zero can show.

Exponents are limited, and a power of ten beyond the limit is infinite or zero.  Products and
quotients are not held against the limit: they pass it only where an operand is next to it or has
more digits than a memory holds.
-/

namespace SlabBook

inductive Decimal where
  | nan
  | infinite (negative : Bool)
  | finite (negative : Bool) (coefficient : Nat) (exponent : Int)
  deriving DecidableEq, Repr

namespace Decimal

def precision : Nat := 80

def ofInt (value : Int) : Decimal := .finite (decide (value < 0)) value.natAbs 0

/-- The greatest exponent of a number; the least is its negative. -/
def maxExponent : Int := 9000000000000000

/-- A power of ten, infinite where it is too great and zero where it is too small. -/
def powerOfTen (exponent : Int) : Decimal :=
  if maxExponent < exponent then .infinite false
  else if exponent < -maxExponent then .finite false 0 0
  else .finite false 1 exponent

/-- The positive or negative number nearest to `num / den * 10 ^ exponent`. -/
def rounded (negative : Bool) (num den : Nat) (exponent : Int) : Decimal :=
  if num = 0 then .finite negative 0 0
  else
    let kept := Rounding.significant 10 precision num den
    let bare := Digits.stripZeros kept.1 (kept.2 + exponent)
    .finite negative bare.1 bare.2

def mul : Decimal → Decimal → Decimal
  | .nan, _ => .nan
  | _, .nan => .nan
  | .infinite s, .infinite t => .infinite (s ^^ t)
  | .infinite s, .finite t c _ => if c = 0 then .nan else .infinite (s ^^ t)
  | .finite s c _, .infinite t => if c = 0 then .nan else .infinite (s ^^ t)
  | .finite s c e, .finite t d f => rounded (s ^^ t) (c * d) 1 (e + f)

def div : Decimal → Decimal → Decimal
  | .nan, _ => .nan
  | _, .nan => .nan
  | .infinite _, .infinite _ => .nan
  | .infinite s, .finite t _ _ => .infinite (s ^^ t)
  | .finite s _ _, .infinite t => .finite (s ^^ t) 0 0
  | .finite s c e, .finite t d f =>
    if d = 0 then (if c = 0 then .nan else .infinite (s ^^ t))
    else rounded (s ^^ t) c d (e - f)

instance : Mul Decimal := ⟨mul⟩
instance : Div Decimal := ⟨div⟩

/-- Zero of either sign is written `0`. -/
def toText : Decimal → String
  | .nan => "NaN"
  | .infinite negative => Digits.signText negative ++ "Infinity"
  | .finite negative c e =>
    if c = 0 then "0" else Digits.signText negative ++ Digits.place c e

end Decimal
end SlabBook

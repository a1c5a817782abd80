import SlabBook.Number.Rounding

/-!
# Binary64 numbers

A finite number is a signed mantissa below `2 ^ 53` times a power of two from `2 ^ -1074` on.  A
ratio is rounded to the nearest such number, a half to the even mantissa, and beyond the largest
one to infinity.  Text is the shortest decimal that is rounded back to the same number and, among
the shortest, the one nearest to it.
-/

namespace SlabBook

inductive Binary64 where
  | nan
  | infinite (negative : Bool)
  | finite (negative : Bool) (mantissa : Nat) (exponent : Int)
  deriving DecidableEq, Repr

namespace Binary64

def leastExponent : Int := -1074

/-- The number nearest to `num / den` with the given sign. -/
def ofRatio (negative : Bool) (num den : Nat) : Binary64 :=
  if num = 0 then .finite negative 0 leastExponent
  else
    let exponent := max (Rounding.leading 2 num den - 52) leastExponent
    let mantissa := Rounding.atExponent 2 exponent num den
    let (m, e) :=
      if mantissa = Nat.pow 2 53 then (Nat.pow 2 52, exponent + 1) else (mantissa, exponent)
    if 971 < e then .infinite negative else .finite negative m e

/-- The number nearest to `value * 10 ^ exponent`. Magnitudes far out of range are settled by
their count of digits alone. -/
def ofDecimal (negative : Bool) (value : Nat) (exponent : Int) : Binary64 :=
  let length := (Digits.digits 10 value).length
  if value = 0 ∨ exponent + length < -400 then .finite negative 0 leastExponent
  else if 400 < exponent + length then .infinite negative
  else ofRatio negative (value * Nat.pow 10 exponent.toNat) (Nat.pow 10 (-exponent).toNat)

def ofNat (value : Nat) : Binary64 := ofDecimal false value 0

/-- The value of a whole number. -/
def whole? : Binary64 → Option Int
  | .finite negative m e =>
    let scaled := m * Nat.pow 2 e.toNat
    if scaled % Nat.pow 2 (-e).toNat = 0 then
      let magnitude : Int := (scaled / Nat.pow 2 (-e).toNat : Nat)
      some (if negative then -magnitude else magnitude)
    else none
  | _ => none

/-- The sum with a whole number, rounded; anything but a whole number stays as it is. -/
def addNat (x : Binary64) (term : Nat) : Binary64 :=
  match x.whole? with
  | none => x
  | some value => ofDecimal (decide (value + term < 0)) (value + term).natAbs 0

/-- Whether the number is less than a whole number; a number that is none is less than nothing. -/
def lt (x : Binary64) (bound : Int) : Bool :=
  match x with
  | .nan => false
  | .infinite negative => negative
  | .finite negative m e =>
    let magnitude : Int := (m * Nat.pow 2 e.toNat : Nat)
    let value := if negative then -magnitude else magnitude
    decide (value < bound * (Nat.pow 2 (-e).toNat : Nat))

/-- Whether the number is greater than a whole number. -/
def gt (x : Binary64) (bound : Int) : Bool :=
  match x with
  | .nan => false
  | .infinite negative => !negative
  | .finite negative m e =>
    let magnitude : Int := (m * Nat.pow 2 e.toNat : Nat)
    let value := if negative then -magnitude else magnitude
    decide (bound * (Nat.pow 2 (-e).toNat : Nat) < value)

/-- Of the two multiples of `10 ^ place` around a positive number, the nearer one that is rounded
back to it. -/
def onGrid? (x : Binary64) (num den : Nat) (place : Int) : Option Nat :=
  let up := num * Nat.pow 10 (-place).toNat
  let down := den * Nat.pow 10 place.toNat
  let below := up / down
  let near := Rounding.nearestEven up down
  let far := if near = below then below + 1 else below
  if ofDecimal false near place = x then some near
  else if ofDecimal false far place = x then some far
  else none

/-- Tries `fuel` digits more than before until a grid has a number that is rounded back. -/
def shortestFrom (x : Binary64) (num den : Nat) (place : Int) : (fuel : Nat) → Nat × Int
  | 0 => (Rounding.atExponent 10 place num den, place)
  | fuel + 1 =>
    match onGrid? x num den place with
    | some value => (value, place)
    | none => shortestFrom x num den (place - 1) fuel

/-- Shortest decimal of a positive number: value and power of ten. -/
def shortest (m : Nat) (e : Int) : Nat × Int :=
  let num := m * Nat.pow 2 e.toNat
  let den := Nat.pow 2 (-e).toNat
  let found := shortestFrom (.finite false m e) num den (Rounding.leading 10 num den) 16
  Digits.stripZeros found.1 found.2

def toText : Binary64 → String
  | .nan => "NaN"
  | .infinite negative => Digits.signText negative ++ "Infinity"
  | .finite negative m e =>
    if m = 0 then "0"
    else
      let short := shortest m e
      Digits.signText negative ++ Digits.place short.1 short.2

end Binary64
end SlabBook

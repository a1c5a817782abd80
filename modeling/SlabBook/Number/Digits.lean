/-!
# Digits of natural numbers

`digits` and `ofDigits` are inverse to each other on numbers, most significant digit first.
`place` sets significant digits around a decimal point: positionally while the leading digit's
power of ten lies strictly between -7 and 21, and with an exponent otherwise.
-/

namespace SlabBook.Digits

/-- The digits of a number in a base of two or more, most significant first; zero has none. -/
def digits (base value : Nat) : List Nat :=
  if _done : value = 0 ∨ base < 2 then [] else digits base (value / base) ++ [value % base]
termination_by value
decreasing_by exact Nat.div_lt_self (by omega) (by omega)

def ofDigits (base : Nat) (ds : List Nat) : Nat := ds.foldl (fun value d => value * base + d) 0

/-- Value and power of ten of the same number without trailing zeros; zero stays zero. -/
def stripZeros (value : Nat) (exponent : Int) : Nat × Int :=
  if _done : value = 0 ∨ value % 10 ≠ 0 then (value, exponent)
  else stripZeros (value / 10) (exponent + 1)
termination_by value
decreasing_by exact Nat.div_lt_self (by omega) (by omega)

def digitChar (d : Nat) : Char := Char.ofNat (48 + d)

/-- The decimal digits of a number other than zero. -/
def chars (value : Nat) : List Char := (digits 10 value).map digitChar

/-- A natural number in decimal text. -/
def toText (value : Nat) : String := if value = 0 then "0" else String.ofList (chars value)

def signText (negative : Bool) : String := if negative then "-" else ""

/-- Digits with the point and all zeros written out; `exponent` is the power of ten of the last.
-/
def plain (written : List Char) (exponent : Int) : List Char :=
  let leading := exponent + written.length - 1
  if 0 ≤ exponent then written ++ List.replicate exponent.toNat '0'
  else if 0 ≤ leading then
    written.take (leading + 1).toNat ++ '.' :: written.drop (leading + 1).toNat
  else '0' :: '.' :: List.replicate (-leading - 1).toNat '0' ++ written

/-- One digit before the point, and the power of ten of that digit. -/
def scientific (written : List Char) (leading : Int) : List Char :=
  let fraction := if written.length ≤ 1 then [] else '.' :: written.drop 1
  let sign := if leading < 0 then '-' else '+'
  written.take 1 ++ fraction ++ 'e' :: sign :: (toText leading.natAbs).toList

/-- The number `value * 10 ^ exponent`, which is not zero, in decimal text. -/
def place (value : Nat) (exponent : Int) : String :=
  let written := chars value
  let leading := exponent + written.length - 1
  String.ofList
    (if -7 < leading ∧ leading < 21 then plain written exponent else scientific written leading)

theorem ofDigits_append (base : Nat) (high : List Nat) (low : Nat) :
    ofDigits base (high ++ [low]) = ofDigits base high * base + low := by
  simp [ofDigits, List.foldl_append]

theorem ofDigits_digits {base : Nat} (proper : 2 ≤ base) (value : Nat) :
    ofDigits base (digits base value) = value := by
  fun_induction digits base value with
  | case1 value done => simp [ofDigits]; omega
  | case2 value done ih => rw [ofDigits_append, ih, Nat.mul_comm, Nat.div_add_mod]

end SlabBook.Digits

import SlabBook.Number.Digits

/-!
# Rounding ratios to a grid

A positive ratio `num / den` is rounded to a multiple of a power of a base.  `nearestEven` picks
the nearest whole number and the even one of two equally near; `atExponent` does so after
scaling, all in whole-number arithmetic, and `significant` keeps a stated count of leading
digits; `whole` does that to a whole number of either sign.
-/

namespace SlabBook.Rounding

/-- The whole number nearest to `num / den`; a half goes to the even neighbour. -/
def nearestEven (num den : Nat) : Nat :=
  let below := num / den
  let rest := 2 * (num % den)
  if den < rest ∨ (rest = den ∧ below % 2 = 1) then below + 1 else below

/-- `num / den` as a multiple of `base ^ exponent`. -/
def atExponent (base : Nat) (exponent : Int) (num den : Nat) : Nat :=
  nearestEven (num * base.pow (-exponent).toNat) (den * base.pow exponent.toNat)

/-- The power of the base that the leading digit of `num / den` counts. -/
def leading (base num den : Nat) : Int :=
  let guess : Int := (Digits.digits base num).length - (Digits.digits base den).length
  if den * base.pow guess.toNat ≤ num * base.pow (-guess).toNat then guess else guess - 1

/-- The nearest multiple of a power of the base with `precision` digits: multiplier and power. -/
def significant (base precision num den : Nat) : Nat × Int :=
  let exponent := leading base num den - (precision - 1 : Nat)
  (atExponent base exponent num den, exponent)

/-- The whole number with at most `precision` digits before its last zeros that is nearest to a
whole number. -/
def whole (base precision : Nat) (value : Int) : Int :=
  if value.natAbs < base.pow precision then value
  else
    let (kept, exponent) := significant base precision value.natAbs 1
    value.sign * (kept * base.pow exponent.toNat : Nat)

theorem whole_of_natAbs_lt {base precision : Nat} {value : Int}
    (short : value.natAbs < base.pow precision) : whole base precision value = value := by
  rw [whole, if_pos short]

end SlabBook.Rounding

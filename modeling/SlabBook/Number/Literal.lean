import SlabBook.Number.Binary64
import SlabBook.Text.Basic

/-!
# Numbers in text

Blanks around a number do not count and blank text is zero.  A number is written in hexadecimal,
octal or binary digits after `0x`, `0o` or `0b`, without a sign, or in decimal with an optional
sign; a decimal may have a point and an exponent, or be `Infinity`.  A whole number of any size
has neither point nor exponent.  Nothing else is a number.
-/

namespace SlabBook.Literal

def digit? (radix : Nat) (c : Char) : Option Nat :=
  let value :=
    if '0' ≤ c ∧ c ≤ '9' then c.toNat - 48
    else if 'a' ≤ c ∧ c ≤ 'z' then c.toNat - 87
    else if 'A' ≤ c ∧ c ≤ 'Z' then c.toNat - 55
    else radix
  if value < radix then some value else none

/-- The value of one or more digits and nothing else. -/
def digits? (radix : Nat) (cs : List Char) : Option Nat :=
  if cs.isEmpty then none else (cs.mapM (digit? radix)).map (Digits.ofDigits radix)

/-- The radix named by the first two characters, and what follows them. -/
def radix? : List Char → Option (Nat × List Char)
  | '0' :: mark :: rest =>
    if mark = 'x' ∨ mark = 'X' then some (16, rest)
    else if mark = 'o' ∨ mark = 'O' then some (8, rest)
    else if mark = 'b' ∨ mark = 'B' then some (2, rest)
    else none
  | _ => none

/-- Whether a minus sign leads, and what follows the sign. -/
def sign : List Char → Bool × List Char
  | '-' :: rest => (true, rest)
  | '+' :: rest => (false, rest)
  | cs => (false, cs)

/-- A power of ten after `e`, zero where there is none. -/
def exponent? : List Char → Option Int
  | [] => some 0
  | mark :: rest =>
    if mark = 'e' ∨ mark = 'E' then
      let (negative, ds) := sign rest
      (digits? 10 ds).map fun (value : Nat) => if negative then -(value : Int) else value
    else none

/-- The digits after a point, and what follows them. -/
def fraction : List Char → List Char × List Char
  | '.' :: rest => (rest.takeWhile Char.isDigit, rest.dropWhile Char.isDigit)
  | cs => ([], cs)

/-- An unsigned decimal: all its digits read as one number, and the power of ten of the last. -/
def decimal? (cs : List Char) : Option (Nat × Int) := do
  let whole := cs.takeWhile Char.isDigit
  let (part, rest) := fraction (cs.dropWhile Char.isDigit)
  let value ← digits? 10 (whole ++ part)
  let exponent ← exponent? rest
  return (value, exponent - part.length)

def number (text : String) : Binary64 :=
  match Text.trim text.toList with
  | [] => .ofNat 0
  | cs =>
    match radix? cs with
    | some (radix, rest) => ((digits? radix rest).map Binary64.ofNat).getD .nan
    | none =>
      let (negative, rest) := sign cs
      if rest = "Infinity".toList then .infinite negative
      else
        match decimal? rest with
        | some (value, exponent) => .ofDecimal negative value exponent
        | none => .nan

def integer? (text : String) : Option Int :=
  match Text.trim text.toList with
  | [] => some 0
  | cs =>
    match radix? cs with
    | some (radix, rest) => (digits? radix rest).map Int.ofNat
    | none =>
      let (negative, rest) := sign cs
      (digits? 10 rest).map fun (value : Nat) => if negative then -(value : Int) else value

end SlabBook.Literal

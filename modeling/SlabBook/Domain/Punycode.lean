import SlabBook.Text.Basic

/-!
# Punycode

A label outside ASCII is encoded in letters, digits and hyphens: its ASCII characters, then,
after the last hyphen, one number of base 36 for each other character.  The number says how many
steps to take through all pairs of a character and a place for it.  Numbers are written least
digit first, and the last digit of one is less than a threshold that adapts to the numbers before
it.  Neither a number nor the weight of a digit may exceed 31 bits.
-/

namespace SlabBook.Domain.Punycode

def digit? (c : Char) : Option Nat :=
  if 'a' ≤ c ∧ c ≤ 'z' then some (c.toNat - 97)
  else if '0' ≤ c ∧ c ≤ '9' then some (c.toNat - 22)
  else none

/-- A text decoded so far, and the number that is being read. -/
structure Reading where
  text : List Char
  code : Nat
  /-- Where the number began. -/
  start : Nat
  value : Nat
  weight : Nat
  place : Nat
  bias : Nat

/-- The threshold for the digit at a place. -/
def threshold (place bias : Nat) : Nat :=
  if place ≤ bias then 1 else if bias + 26 ≤ place then 26 else place - bias

/-- Divides until the threshold's range is met, and counts 36 for every division. -/
def scale (delta bias : Nat) : Nat :=
  if 455 < delta then scale (delta / 35) (bias + 36) else bias + 36 * delta / (delta + 38)
termination_by delta
decreasing_by exact Nat.div_lt_self (by omega) (by omega)

/-- The bias after a number by which the text grew to the given length. -/
def adapt (delta length : Nat) (first : Bool) : Nat :=
  let damped := if first then delta / 700 else delta / 2
  scale (damped + damped / length) 0

namespace Reading

def ofAscii (ascii : List Char) : Reading := ⟨ascii, 0x80, 0, 0, 1, 36, 72⟩

/-- Puts the character in that a complete number stands for. -/
def insert? (reading : Reading) (value : Nat) : Option Reading :=
  let length := reading.text.length + 1
  let code := reading.code + value / length
  let place := value % length
  if code.isValidChar then
    some ⟨reading.text.insertIdx place (Char.ofNat code), code, place + 1, place + 1, 1, 36,
      adapt (value - reading.start) length (reading.start = 0)⟩
  else none

/-- The greatest number and the greatest weight. -/
def limit : Nat := 0x7fffffff

def read? (reading : Reading) (c : Char) : Option Reading := do
  let digit ← digit? c
  let value := reading.value + digit * reading.weight
  let least := threshold reading.place reading.bias
  let weight := reading.weight * (36 - least)
  if limit < value then none
  else if digit < least then reading.insert? value
  else if limit < weight then none
  else return { reading with value, weight, place := reading.place + 36 }

/-- The text, unless a number is incomplete. -/
def text? (reading : Reading) : Option (List Char) :=
  if reading.place = 36 then some reading.text else none

end Reading

/-- The ASCII characters and the digits of the numbers. -/
def parts (cs : List Char) : List Char × List Char :=
  let numbers := (cs.reverse.takeWhile (· ≠ '-')).reverse
  ((cs.take (cs.length - numbers.length)).dropLast, numbers)

def decode? (cs : List Char) : Option (List Char) :=
  let (ascii, numbers) := parts cs
  (numbers.foldlM Reading.read? (.ofAscii ascii)).bind Reading.text?

end SlabBook.Domain.Punycode

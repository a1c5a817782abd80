import SlabBook.Number.Digits

/-!
# Base 58 text

A run of bytes is read as one number, most significant byte first, and written in the digits of
the alphabet below.  Leading zero bytes carry no value, so each is kept as one leading `1`.
-/

namespace SlabBook.Base58

def alphabet : List Char :=
  "123456789ABCDEFGHJKLMNPQRSTUVWXYZabcdefghijkmnopqrstuvwxyz".toList

def digit (value : Nat) : Char := alphabet.getD value '1'

def digit? (c : Char) : Option Nat := alphabet.idxOf? c

def encode (run : List UInt8) : String :=
  let zeros := (run.takeWhile (· == 0)).length
  let value := Digits.ofDigits 256 (run.map UInt8.toNat)
  String.ofList (List.replicate zeros '1' ++ (Digits.digits 58 value).map digit)

/-- Nothing for a character outside the alphabet. -/
def decode? (text : String) : Option (List UInt8) := do
  let ds ← text.toList.mapM digit?
  let zeros := (ds.takeWhile (· == 0)).length
  return List.replicate zeros 0 ++ (Digits.digits 256 (Digits.ofDigits 58 ds)).map UInt8.ofNat

end SlabBook.Base58

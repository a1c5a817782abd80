import SlabBook.Bytes

/-!
# Hexadecimal text

Two lower-case digits a byte on the way out; either case on the way in.
-/

namespace SlabBook.Hex

def digit (value : Nat) : Char :=
  if value < 10 then Char.ofNat (48 + value) else Char.ofNat (87 + value)

def digit? (c : Char) : Option Nat :=
  if '0' ≤ c ∧ c ≤ '9' then some (c.toNat - 48)
  else if 'a' ≤ c ∧ c ≤ 'f' then some (c.toNat - 87)
  else if 'A' ≤ c ∧ c ≤ 'F' then some (c.toNat - 55)
  else none

def encode (run : List UInt8) : String :=
  String.ofList (run.flatMap fun byte => [digit (byte.toNat / 16), digit (byte.toNat % 16)])

/-- Refuses an odd number of digits and anything that is no digit; the bytes read so far go first.
-/
def decodeFrom (read : Bytes) : List Char → Option Bytes
  | [] => some read
  | [_] => none
  | high :: low :: rest =>
    match digit? high, digit? low with
    | some h, some l => decodeFrom (read.push (UInt8.ofNat (16 * h + l))) rest
    | _, _ => none

def decode? (text : String) : Option Bytes := decodeFrom #[] text.toList

end SlabBook.Hex

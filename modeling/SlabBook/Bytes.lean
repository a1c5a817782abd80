/-!
# Bytes and little-endian words

A buffer is an array of bytes and a field is a run of bytes in it.  Numbers are read by way of
`slice?`, which answers a run that lies inside and nothing otherwise.  Runs of bytes may be taken with
`clip`, which never fails and answers as many bytes as there are.
`ofLE` and `toLE` tie a run of bytes to the number it stands for, least significant byte first.
-/

namespace SlabBook

abbrev Bytes := Array UInt8

namespace Bytes

/-- The number a run of bytes stands for, least significant byte first. -/
def ofLE : List UInt8 → Nat
  | [] => 0
  | byte :: rest => byte.toNat + 256 * ofLE rest

/-- The run of `width` bytes that stands for `value` modulo `256 ^ width`. -/
def toLE : (width value : Nat) → List UInt8
  | 0, _ => []
  | width + 1, value => UInt8.ofNat value :: toLE width (value / 256)

/-- The `width` bytes from `offset` on, if all of them lie in the buffer. -/
def slice? (data : Bytes) (offset : Int) (width : Nat) : Option (List UInt8) :=
  if 0 ≤ offset ∧ offset + width ≤ data.size then
    some (data.extract offset.toNat (offset.toNat + width)).toList
  else none

def nat? (data : Bytes) (offset : Int) (width : Nat) : Option Nat :=
  (data.slice? offset width).map ofLE

def byte? (data : Bytes) (offset : Int) : Option UInt8 :=
  (data.nat? offset 1).map UInt8.ofNat

def word32? (data : Bytes) (offset : Int) : Option UInt32 :=
  (data.nat? offset 4).map UInt32.ofNat

def word64? (data : Bytes) (offset : Int) : Option UInt64 :=
  (data.nat? offset 8).map UInt64.ofNat

/-- A two's-complement word. -/
def signed64? (data : Bytes) (offset : Int) : Option Int64 :=
  (data.word64? offset).map UInt64.toInt64

/-- A position from the front of the buffer.  A negative one is counted from the end, and one that lies
outside is moved to the nearer end. -/
def clamp (data : Bytes) (position : Int) : Nat :=
  if position < 0 then (data.size + position).toNat else min position.toNat data.size

/-- The `width` bytes from `offset` on, or those of them that lie in the buffer. -/
def clip (data : Bytes) (offset : Int) (width : Nat) : List UInt8 :=
  (data.extract (data.clamp offset) (data.clamp (offset + width))).toList

/-- Writes `patch` over the bytes from `offset` on; what would lie past the end is cut off. -/
def overwrite (data : Bytes) (offset : Nat) : List UInt8 → Bytes
  | [] => data
  | byte :: rest => overwrite (data.setIfInBounds offset byte) (offset + 1) rest

@[simp] theorem length_toLE (width value : Nat) : (toLE width value).length = width := by
  induction width generalizing value with
  | zero => rfl
  | succ width ih => simp [toLE, ih]

theorem ofLE_toLE (width value : Nat) : ofLE (toLE width value) = value % Nat.pow 256 width := by
  induction width generalizing value with
  | zero => simp [toLE, ofLE, Nat.mod_one]
  | succ width ih =>
    have split : Nat.pow 256 (width + 1) = 256 * Nat.pow 256 width := Nat.pow_succ'
    rw [toLE, ofLE, ih, UInt8.toNat_ofNat', split, Nat.mod_mul]

theorem toLE_ofLE (run : List UInt8) : toLE run.length (ofLE run) = run := by
  induction run with
  | nil => rfl
  | cons byte rest ih =>
    have bound := byte.toNat_lt
    have quotient : (byte.toNat + 256 * ofLE rest) / 256 = ofLE rest := by omega
    have digit : UInt8.ofNat (byte.toNat + 256 * ofLE rest) = byte := by
      apply UInt8.toNat_inj.1
      simp only [UInt8.toNat_ofNat']
      omega
    simp only [List.length_cons, ofLE, toLE, quotient, digit, ih]

theorem slice?_eq_some_iff {data : Bytes} {offset : Int} {width : Nat} {run : List UInt8} :
    data.slice? offset width = some run ↔
      (0 ≤ offset ∧ offset + width ≤ data.size) ∧
        run = (data.extract offset.toNat (offset.toNat + width)).toList := by
  unfold slice?
  split
  case isTrue inside => simp [inside, eq_comm]
  case isFalse outside => simp only [outside, false_and, reduceCtorEq]

theorem length_of_slice? {data : Bytes} {offset : Int} {width : Nat} {run : List UInt8}
    (success : data.slice? offset width = some run) : run.length = width := by
  obtain ⟨⟨low, high⟩, rfl⟩ := slice?_eq_some_iff.1 success
  simp only [Array.length_toList, Array.size_extract]
  omega

theorem length_clip_le (data : Bytes) (offset : Int) (width : Nat) :
    (data.clip offset width).length ≤ width := by
  simp only [clip, clamp, Array.length_toList, Array.size_extract]
  split <;> split <;> omega

/-- Where all the bytes lie in the buffer, none is clipped. -/
theorem slice?_eq_clip {data : Bytes} {offset : Int} {width : Nat} (low : 0 ≤ offset)
    (high : offset + width ≤ data.size) : data.slice? offset width = some (data.clip offset width) := by
  have first : data.clamp offset = offset.toNat := by
    rw [clamp, if_neg (by omega)]
    omega
  have last : data.clamp (offset + width) = offset.toNat + width := by
    rw [clamp, if_neg (by omega)]
    omega
  rw [slice?, if_pos ⟨low, high⟩, clip, first, last]

end Bytes
end SlabBook

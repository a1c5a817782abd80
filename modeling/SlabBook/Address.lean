import SlabBook.Text.Base58

/-!
# Account addresses

An address is 32 bytes, written in base 58.  Reading refuses text outside the alphabet first and
a wrong length second.
-/

namespace SlabBook

structure Address where
  bytes : Vector UInt8 32
  deriving DecidableEq, Repr

inductive AddressError where
  | alphabet | length
  deriving DecidableEq, Repr

namespace AddressError

def message : AddressError → String
  | .alphabet => "Non-base58 character"
  | .length => "Invalid public key input"

end AddressError

namespace Address

def ofList? (run : List UInt8) : Option Address :=
  if exact : run.length = 32 then some ⟨⟨run.toArray, by simp [exact]⟩⟩ else none

/-- The address of a number, whose bytes come most significant first: the ones that are missing are
leading zeros. -/
def ofShort (run : List UInt8) (short : run.length ≤ 32) : Address :=
  ⟨⟨(List.replicate (32 - run.length) 0 ++ run).toArray, by simp [Nat.sub_add_cancel short]⟩⟩

theorem ofShort_of_ofList? {run : List UInt8} {address : Address} (exact : ofList? run = some address)
    (short : run.length ≤ 32) : ofShort run short = address := by
  unfold ofList? at exact
  split at exact
  case isTrue whole =>
    cases exact
    simp [ofShort, whole]
  case isFalse => cases exact

def toText (address : Address) : String := Base58.encode address.bytes.toList

def ofText (text : String) : Except AddressError Address :=
  match Base58.decode? text with
  | none => .error .alphabet
  | some run =>
    match ofList? run with
    | none => .error .length
    | some address => .ok address

/-- The address whose bytes are all `byte`. -/
def fill (byte : UInt8) : Address := ⟨Vector.replicate 32 byte⟩

end Address
end SlabBook

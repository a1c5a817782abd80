import SlabBook.Address
import SlabBook.Book.Kind
import SlabBook.Number.Binary64

/-!
# Why a payload is refused

The causes for which an account's bytes yield no orders, each with its wording, and what any other
decoder throws.
-/

namespace SlabBook

/-- The number of node slots asked for, before it is known to be a positive whole number. -/
inductive Capacity where
  | whole (count : Int)
  | fraction (value : Binary64)
  deriving DecidableEq, Repr

/-- What a walk met that no tree of orders contains. -/
inductive Corruption where
  | outOfRange (index : UInt32)
  | reachedTwice (index : UInt32)
  | freeNode (index : UInt32)
  | uninitializedNode (index : UInt32)
  | unknownTag (tag index : UInt32)
  | leafCount (reached : Nat) (stated : UInt64)
  deriving DecidableEq, Repr

/-- What a caller's own decoder throws: an error with its message, or anything else, of which only the
text is kept. -/
inductive Thrown where
  | error (message : String)
  | value (text : String)
  deriving DecidableEq, Repr

inductive PayloadError where
  | capacity (given : Capacity)
  /-- The expected size is kept as it is reported, which for a huge capacity is a rounded number. -/
  | sizeMismatch (actual : Nat) (expected : Binary64)
  | outOfBounds
  | sideMismatch (expected actual : SideKind)
  | corruptTree (cause : Corruption)
  | thrown (given : Thrown)
  deriving DecidableEq, Repr

namespace Capacity

def default : Capacity := .whole 1024

def ofNumber (value : Binary64) : Capacity :=
  match value.whole? with
  | some count => .whole count
  | none => .fraction value

def toText : Capacity → String
  | .whole count => Digits.signText (decide (count < 0)) ++ (Binary64.ofNat count.natAbs).toText
  | .fraction value => value.toText

end Capacity

namespace Corruption

/-- The slot at which the walk stopped. -/
def index? : Corruption → Option UInt32
  | .outOfRange index => some index
  | .reachedTwice index => some index
  | .freeNode index => some index
  | .uninitializedNode index => some index
  | .unknownTag _ index => some index
  | .leafCount _ _ => none

def reason : Corruption → String
  | .outOfRange _ => "index out of range"
  | .reachedTwice _ => "node reached twice"
  | .freeNode _ => "free node reachable from root"
  | .uninitializedNode _ => "uninitialized node reachable from root"
  | .unknownTag tag _ => s!"unknown node tag {tag}"
  | .leafCount reached stated => s!"reached {reached} leaves but header says {stated}"

def message (cause : Corruption) : String :=
  match cause.index? with
  | none => s!"corrupt_tree: {cause.reason}"
  | some index => s!"corrupt_tree: {cause.reason} at node {index}"

end Corruption

namespace Thrown

def text : Thrown → String
  | .error message => message
  | .value text => text

end Thrown

namespace PayloadError

def message : PayloadError → String
  | .capacity given => s!"book_capacity_invalid: {given.toText}"
  | .sizeMismatch actual expected =>
    s!"book side data length ({actual}) does not match expected size ({expected.toText})"
  | .outOfBounds => "read outside the buffer"
  | .sideMismatch expected actual =>
    s!"side_mismatch: expected {expected.toText} but account holds {actual.toText}"
  | .corruptTree cause => cause.message
  | .thrown given => given.text

end PayloadError
end SlabBook

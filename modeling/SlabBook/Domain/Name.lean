import SlabBook.Domain.Label

/-!
# Domain names

A name is read as composed text of what its characters stand for.  There must be something left
then, no forbidden character, and only valid labels; empty labels are no fault.
-/

namespace SlabBook.Domain

/-- Characters that have a meaning around a host. -/
def isReserved (c : Char) : Bool :=
  "\x00\t\n\r #/:<>?@[\\]^|".toList.contains c

def isForbidden (c : Char) : Bool :=
  isReserved c || c.toNat < 0x20 || c == '%' || c.toNat == 0x7f

/-- The name that is meant; nothing if one of its characters may not occur. -/
def read? (cs : List Char) : Option (List Char) :=
  (cs.mapM standsFor?).map fun pieces => Composition.compose pieces.flatten

/-- The labels of a valid name. -/
def labels? (cs : List Char) : Option (List (List Char)) := do
  let name ← read? cs
  let labels := Text.split '.' name
  if name ≠ [] ∧ !name.any isForbidden ∧ labels.all Label.isValid then some labels else none

end SlabBook.Domain

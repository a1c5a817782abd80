import SlabBook.Number.Digits
import SlabBook.Text.Basic
import SlabBook.Text.Hex

/-!
# Tables of characters

Sets of characters and maps from characters are written as text.  Numbers are hexadecimal, a
hyphen joins the ends of a range, blanks part the entries.  An entry of a map has its values
behind an equals sign, with points between them.
-/

namespace SlabBook

/-- The code points from `first` to `last`, both included. -/
structure CodeRange where
  first : Nat
  last : Nat
  deriving DecidableEq, Repr

/-- What is listed for a range of keys. -/
structure CodeEntry where
  keys : CodeRange
  values : List CodeRange
  deriving DecidableEq, Repr

abbrev CodeSet := List CodeRange

abbrev CodeMap := List CodeEntry

namespace CodeRange

def contains (range : CodeRange) (code : Nat) : Bool := range.first ≤ code && code ≤ range.last

def number? (cs : List Char) : Option Nat := (cs.mapM Hex.digit?).map (Digits.ofDigits 16)

def ofText? (cs : List Char) : Option CodeRange :=
  match (Text.split '-' cs).mapM number? with
  | some [single] => some ⟨single, single⟩
  | some [first, last] => some ⟨first, last⟩
  | _ => none

end CodeRange

namespace CodeEntry

def ofText? (cs : List Char) : Option CodeEntry :=
  match Text.split '=' cs with
  | [keys, values] => do
    return ⟨← CodeRange.ofText? keys, ← (Text.split '.' values).mapM CodeRange.ofText?⟩
  | _ => none

end CodeEntry

namespace CodeTable

def words (lines : List String) : List (List Char) :=
  lines.flatMap fun line => Text.split ' ' line.toList

def set (lines : List String) : CodeSet := (words lines).filterMap CodeRange.ofText?

def map (lines : List String) : CodeMap := (words lines).filterMap CodeEntry.ofText?

end CodeTable

namespace CodeSet

def contains (ranges : CodeSet) (c : Char) : Bool := ranges.any (·.contains c.toNat)

end CodeSet

namespace CodeMap

/-- The entry for a character. -/
def entry? (entries : CodeMap) (c : Char) : Option CodeEntry :=
  entries.find? fun entry => entry.keys.contains c.toNat

/-- The first key whose values contain a character. -/
def key? (entries : CodeMap) (c : Char) : Option Nat :=
  (entries.find? fun entry => entry.values.any (·.contains c.toNat)).map (·.keys.first)

end CodeMap
end SlabBook

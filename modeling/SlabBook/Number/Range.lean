import SlabBook.Number.Literal

/-!
# Whole numbers in a range

What is wrong with a number that should be whole and lie between two bounds.  A number that is
none is wrong in that way alone; any other is tested for wholeness and for each bound.
-/

namespace SlabBook

inductive RangeIssue where
  | notANumber
  | notWhole
  | below (least : Int)
  | above (greatest : Int)
  deriving DecidableEq, Repr

structure Range where
  least : Int
  greatest : Int
  deriving DecidableEq, Repr

namespace RangeIssue

def message : RangeIssue → String
  | .notANumber => "Expected number, received nan"
  | .notWhole => "Expected integer, received float"
  | .below least => s!"Number must be greater than or equal to {least}"
  | .above greatest => s!"Number must be less than or equal to {greatest}"

end RangeIssue

namespace Range

def issues (range : Range) (value : Binary64) : List RangeIssue :=
  if value = .nan then [.notANumber]
  else
    (if value.whole?.isNone then [.notWhole] else []) ++
    (if value.lt range.least then [.below range.least] else []) ++
    (if value.gt range.greatest then [.above range.greatest] else [])

def check (range : Range) (value : Binary64) : Except (List RangeIssue) Int :=
  match value.whole?, range.issues value with
  | some whole, [] => .ok whole
  | _, found => .error found

end Range
end SlabBook

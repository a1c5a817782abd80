import SlabBook.Number.Rounding

/-!
# Clocks

Times are whole multiples of a unit.  A clock has 53 binary digits: where a time, or the time
between two others, has more digits than that, the nearest one with so many is taken.  Times of
less than 53 digits are exact.
-/

namespace SlabBook.Clock

def precision : Nat := 53

/-- The nearest time that a clock can tell. -/
def nearest (time : Int) : Int := Rounding.whole 2 precision time

/-- The time a span after another; the span may be negative. -/
def advance (now span : Int) : Int := nearest (now + span)

/-- How long after one time another is, which is negative if it comes before. -/
def between (earlier later : Int) : Int := nearest (later - earlier)

theorem nearest_of_natAbs_lt {time : Int} (short : time.natAbs < Nat.pow 2 precision) :
    nearest time = time :=
  Rounding.whole_of_natAbs_lt short

end SlabBook.Clock

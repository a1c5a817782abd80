import SlabBook.Text.Basic
import SlabBook.Text.Percent

/-!
# Queries

A query consists of fields `key=value` between ampersands.  A plus sign in a field is a blank,
and a key may come more than once.
-/

namespace SlabBook.Http.Query

def readText (cs : List Char) : String :=
  Percent.decode (cs.map fun c => if c = '+' then ' ' else c)

/-- The key and value of one field; a field without a value has the empty one. -/
def field (cs : List Char) : String × String :=
  (readText (cs.takeWhile (· ≠ '=')), readText ((cs.dropWhile (· ≠ '=')).drop 1))

/-- The fields of a query in order; nothing between two ampersands is no field. -/
def fields (query : String) : List (String × String) :=
  ((Text.split '&' query.toList).filter (· ≠ [])).map field

/-- All values of a key, in order. -/
def values (query key : String) : List String :=
  (fields query).filterMap fun entry => if entry.1 = key then some entry.2 else none

end SlabBook.Http.Query

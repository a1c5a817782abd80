import SlabBook.Domain.Characters
import SlabBook.Domain.Composition
import SlabBook.Domain.Direction
import SlabBook.Domain.Joining
import SlabBook.Domain.Punycode

/-!
# Labels

A label is what stands between two points of a domain name.  A label outside ASCII does not begin
with a mark, has joiners only where they join, and keeps to one direction.  An encoded label has
to decode to such a label or to ASCII, in composed text whose characters stand for themselves.
-/

namespace SlabBook.Domain.Label

def isAscii (cs : List Char) : Bool := cs.all (·.toNat < 0x80)

def beginsWithMark : List Char → Bool
  | [] => false
  | c :: _ => marks.contains c

def isNeutral (direction : Direction) : Bool :=
  direction = .europeanNumber || direction = .neutral || direction = .nonspacing

def isFromRight (direction : Direction) : Bool :=
  direction = .rightToLeft || direction = .arabicNumber

/-- Text from left to right may hold neutral characters, and ends in any character. -/
def staysLeftToRight (directions : List Direction) : Bool :=
  directions.dropLast.all fun direction => direction = .leftToRight || isNeutral direction

/-- Text from right to left may hold neutral characters, but not both kinds of digits, and ends in
a letter or a digit. -/
def staysRightToLeft (directions : List Direction) : Bool :=
  directions.all (fun direction => isFromRight direction || isNeutral direction) &&
    !(directions.contains .europeanNumber && directions.contains .arabicNumber) &&
    directions.getLast?.any fun direction => isFromRight direction || direction = .europeanNumber

/-- The first character of a text with right-to-left characters tells its direction.  Marks at the
end do not count. -/
def keepsDirection (cs : List Char) : Bool :=
  let directions := ((cs.map Direction.ofChar).reverse.dropWhile (· = .nonspacing)).reverse
  !directions.any isFromRight ||
    if directions.head? = some .leftToRight then staysLeftToRight directions
    else staysRightToLeft directions

/-- A joiner needs a virama before it; a non-joiner may do with letters on either side that would
join. -/
def joins (before : List Char) (sign : Char) (after : List Char) : Bool :=
  (before.getLast?.map viramas.contains).getD false ||
    (sign = nonJoiner && before.any joinsNext.contains && after.any joinsPrevious.contains)

/-- The first joiner of a label decides about it; a label without one has to keep its direction.
-/
def isSound (cs : List Char) : Bool :=
  let isJoiner := fun c => c = nonJoiner ∨ c = joiner
  !beginsWithMark cs &&
    match cs.dropWhile (!isJoiner ·) with
    | [] => keepsDirection cs
    | sign :: after => joins (cs.takeWhile (!isJoiner ·)) sign after

def encodedMark : List Char := "xn--".toList

/-- What an encoded label decodes to. -/
def decode? (cs : List Char) : Option (List Char) :=
  (Punycode.decode? cs).filter fun text =>
    text ≠ [] && text.all isPlain && Composition.compose text = text && isSound text

def isValid (cs : List Char) : Bool :=
  if encodedMark.isPrefixOf cs then
    isAscii cs && (decode? (cs.drop encodedMark.length)).isSome
  else isAscii cs || isSound cs

end SlabBook.Domain.Label

import SlabBook.Text.Basic
import SlabBook.Text.Percent
import SlabBook.Url.Scheme

/-!
# Paths

A path is a list of segments between slashes, read from left to right: a single dot stands for
nothing and a double dot takes the segment before it away.  Dots may be escaped.  A drive letter
at the front of a file's path is written with a colon and is not taken away.

A path in which the first segment that begins with a dot is the name of something hidden is
settled: it stays as it is written, whatever dots come later, unless it has characters to escape,
percent signs or backslashes.
-/

namespace SlabBook.Url

abbrev Segments := List (List Char)

def isDriveLetter : List Char → Bool
  | [letter, mark] => isAlpha letter && (mark == ':' || mark == '|')
  | _ => false

def escapedInSegment (c : Char) : Bool := " \"#<>?\x60\x7b\x7d".toList.contains c

/-- The segment with every escaped dot resolved. -/
def resolveDots : List Char → List Char
  | '%' :: '2' :: mark :: rest =>
    if mark = 'e' ∨ mark = 'E' then '.' :: resolveDots rest
    else '%' :: '2' :: resolveDots (mark :: rest)
  | [] => []
  | c :: rest => c :: resolveDots rest

namespace Segments

/-- A segment that begins like a drive stays, whatever follows the colon. -/
def isDrive : List Char → Bool
  | letter :: ':' :: _ => isAlpha letter
  | _ => false

/-- The path one level up. -/
def shorten (scheme : String) (path : Segments) : Segments :=
  match path with
  | [only] => if isFile scheme && isDrive only then path else []
  | _ => path.dropLast

/-- The path with one more segment.  A dot at the end leaves an empty segment; so do two dots,
except at the root of a scheme whose paths may be empty. -/
def add (scheme : String) (last : Bool) (path : Segments) (segment : List Char) : Segments :=
  let ending := if last then [[]] else []
  let dots := resolveDots segment
  if dots = ['.', '.'] then
    if isSpecial scheme || path ≠ [] then path.shorten scheme ++ ending else []
  else if dots = ['.'] then path ++ ending
  else
    match segment with
    | [letter, _] =>
      if isFile scheme && path.isEmpty && isDriveLetter segment then [[letter, ':']]
      else path ++ [segment]
    | _ => path ++ [segment]

def addAll (scheme : String) (path : Segments) : List (List Char) → Segments
  | [] => path
  | [last] => path.add scheme true last
  | segment :: rest => addAll scheme (path.add scheme false segment) rest

/-! ## Settled paths -/

/-- A character that a path may hold as it is and that is never read as anything else. -/
def isPlain (c : Char) : Bool :=
  0x20 < c.toNat && c.toNat < 0x7f && !escapedInSegment c && c ≠ '%' && c ≠ '\\'

/-- What follows the first dot behind a slash. -/
def afterDot? : List Char → Option (List Char)
  | '/' :: '.' :: rest => some rest
  | _ :: rest => afterDot? rest
  | [] => none

def beginsWithDriveLetter (cs : List Char) : Bool :=
  isDriveLetter (cs.take 2) && (cs[2]?).all (· = '/')

def isSettled (scheme : String) (cs : List Char) : Bool :=
  cs.all isPlain && cs.head? ≠ some '.' && !(isFile scheme && beginsWithDriveLetter cs) &&
    (afterDot? cs).all fun rest => rest.head?.any fun c => c ≠ '.' && c ≠ '/'

/-- The pieces between the slashes of a text. -/
def pieces (scheme : String) (cs : List Char) : List (List Char) :=
  Text.split '/' (cs.map fun c => if isSlash scheme c then '/' else c)

/-- The path that a text behind a slash is. -/
def ofText (scheme : String) (cs : List Char) : Segments :=
  if isSettled scheme cs then pieces scheme cs
  else addAll scheme [] ((pieces scheme cs).map (Percent.encode escapedInSegment))

def toText (path : Segments) : List Char := path.flatMap ('/' :: ·)

end Segments
end SlabBook.Url

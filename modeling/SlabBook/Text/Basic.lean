/-!
# Blanks and text length

The blanks that surround numbers and list entries: the ASCII control blanks, the Unicode space
separators, the line and paragraph separators and the byte order mark.  Length counts UTF-16
units.
-/

namespace SlabBook.Text

def isBlank (c : Char) : Bool :=
  let code := c.toNat
  (9 ≤ code && code ≤ 13) || code == 0x20 || code == 0xA0 || code == 0x1680 ||
    (0x2000 ≤ code && code ≤ 0x200A) || code == 0x2028 || code == 0x2029 || code == 0x202F ||
    code == 0x205F || code == 0x3000 || code == 0xFEFF

def dropBlankEnd (cs : List Char) : List Char := (cs.reverse.dropWhile isBlank).reverse

def trim (cs : List Char) : List Char := dropBlankEnd (cs.dropWhile isBlank)

/-- A character beyond the basic plane counts twice. -/
def units16 (text : String) : Nat :=
  text.toList.foldl (fun count c => count + if c.toNat < 0x10000 then 1 else 2) 0

/-- Whether a piece of text occurs in another text. -/
def occurs (piece : List Char) : List Char → Bool
  | [] => piece.isEmpty
  | c :: rest => piece.isPrefixOf (c :: rest) || occurs piece rest

/-- The pieces between separators, at least one. -/
def split (separator : Char) : List Char → List (List Char)
  | [] => [[]]
  | c :: rest =>
    if c = separator then [] :: split separator rest
    else
      match split separator rest with
      | [] => [[c]]
      | piece :: pieces => (c :: piece) :: pieces

/-- The trimmed, nonempty entries between commas. -/
def commaList (text : String) : List String :=
  (((split ',' text.toList).map trim).filter (· ≠ [])).map String.ofList

end SlabBook.Text

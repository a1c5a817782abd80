import SlabBook.Url.Host
import SlabBook.Url.Path

/-!
# URLs

A URL is read as far as a request to a server needs it: scheme, path and query.  What can fail is
a missing scheme, a missing or bad host, and a bad port; paths, queries and fragments never fail.
A text without a scheme of its own is read at the root of a server.
-/

namespace SlabBook

inductive UrlPath where
  | segments (path : Url.Segments)
  /-- The path of a URL that names no place in a hierarchy. -/
  | name (text : List Char)
  deriving DecidableEq, Repr

structure Url where
  scheme : String
  path : UrlPath
  query : Option (List Char)
  deriving DecidableEq, Repr

namespace UrlPath

def toText : UrlPath → List Char
  | .segments path => path.toText
  | .name text => text

end UrlPath

namespace Url

def endsPath (c : Char) : Bool := c == '?' || c == '#'

def escapedInQuery (special : Bool) (c : Char) : Bool :=
  " \"#<>".toList.contains c || (special && c == '\x27')

/-- The text without surrounding blanks and control characters and without line breaks and tabs.
-/
def strip (cs : List Char) : List Char :=
  let outer := fun (c : Char) => decide (c.toNat ≤ 0x20)
  let inner := ((cs.dropWhile outer).reverse.dropWhile outer).reverse
  inner.filter fun c => c ≠ '\t' ∧ c ≠ '\n' ∧ c ≠ '\r'

def isSchemeChar (c : Char) : Bool :=
  isAlpha c || c.isDigit || c == '+' || c == '-' || c == '.'

/-- Scheme in lower case, and what follows the colon. -/
def scheme? (cs : List Char) : Option (String × List Char) :=
  match cs.takeWhile isSchemeChar, cs.dropWhile isSchemeChar with
  | first :: more, ':' :: rest =>
    if isAlpha first then some ((String.ofList (first :: more)).toLower, rest) else none
  | _, _ => none

/-- The query after a path, up to the fragment. -/
def query? (scheme : String) (cs : List Char) : Option (List Char) :=
  match cs.dropWhile (!endsPath ·) with
  | '?' :: rest =>
    some (Percent.encode (escapedInQuery (isSpecial scheme)) (rest.takeWhile (· ≠ '#')))
  | _ => none

/-- A path's segments; a slash in front of them is none of theirs.  The path of a special scheme
is never empty. -/
def segments (scheme : String) (cs : List Char) : Segments :=
  let whole := cs.takeWhile (!endsPath ·)
  match whole with
  | [] => if isSpecial scheme then [[]] else []
  | c :: rest => .ofText scheme (if isSlash scheme c then rest else whole)

/-- The URL whose path and query a text is. -/
def ofPath (scheme : String) (cs : List Char) : Url :=
  ⟨scheme, .segments (segments scheme cs), query? scheme cs⟩

/-- The URL whose path is no hierarchy. -/
def ofName (scheme : String) (cs : List Char) : Url :=
  ⟨scheme, .name (Percent.encode (fun _ => false) (cs.takeWhile (!endsPath ·))),
    query? scheme cs⟩

def endsHost (scheme : String) (c : Char) : Bool := isSlash scheme c || endsPath c

/-- A text that begins with an authority. -/
def ofAuthority? (scheme : String) (cs : List Char) : Option Url :=
  if isAuthority (isSpecial scheme) (cs.takeWhile (!endsHost scheme ·)) then
    some (ofPath scheme (cs.dropWhile (!endsHost scheme ·)))
  else none

/-- A text that begins with the host of a file.  A drive letter is no host. -/
def ofFileHost? (cs : List Char) : Option Url :=
  let host := cs.takeWhile (!endsHost "file" ·)
  let rest := cs.dropWhile (!endsHost "file" ·)
  if isDriveLetter host then some (ofPath "file" cs)
  else if host.isEmpty || isHost true host then some (ofPath "file" rest)
  else none

/-- A text at the root of a server: an authority after two slashes, or else a path. -/
def ofReference? (scheme : String) (cs : List Char) : Option Url :=
  match cs with
  | first :: second :: rest =>
    if isSlash scheme first ∧ isSlash scheme second then
      ofAuthority? scheme (rest.dropWhile (isSlash scheme))
    else some (ofPath scheme cs)
  | _ => some (ofPath scheme cs)

/-- What follows the colon of a scheme. -/
def ofScheme? (root : Option String) (scheme : String) (rest : List Char) : Option Url :=
  if isFile scheme then
    match rest with
    | first :: second :: host =>
      if isSlash scheme first ∧ isSlash scheme second then ofFileHost? host
      else some (ofPath scheme rest)
    | _ => some (ofPath scheme rest)
  else if isSpecial scheme then
    if root = some scheme ∧ ¬ ['/', '/'].isPrefixOf rest then ofReference? scheme rest
    else ofAuthority? scheme (rest.dropWhile (isSlash scheme))
  else
    match rest with
    | '/' :: '/' :: authority => ofAuthority? scheme authority
    | '/' :: _ => some (ofPath scheme rest)
    | _ => some (ofName scheme rest)

/-- The URL that a text is.  A text without a scheme needs a server at whose root it is read; of
that server the scheme is given, a special one other than `file`. -/
def ofText? (root : Option String) (text : String) : Option Url :=
  let cs := strip text.toList
  match scheme? cs with
  | some (scheme, rest) => ofScheme? root scheme rest
  | none => root.bind fun scheme => ofReference? scheme cs

def isValid (text : String) : Bool := (ofText? none text).isSome

/-- Path and query as they stand in a request line; a question mark without a query is left out.
-/
def requestLine (url : Url) : List Char :=
  url.path.toText ++
    match url.query.getD [] with
    | [] => []
    | query => '?' :: query

end Url
end SlabBook

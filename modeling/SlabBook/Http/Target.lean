import SlabBook.Url

/-!
# Request targets

A target is an absolute URL or is read at the server's root.  Its line of path and query is what
answers quote.  The path ends at the first question mark, semicolon or number sign behind its
first character, and the query follows.  A resource is named by the path without its first
character, which is a slash wherever the URL is a place in a hierarchy, and with the escapes
resolved of all characters that have no meaning of their own in a URL.
-/

namespace SlabBook.Http

structure Target where
  /-- Path and query as they are quoted. -/
  line : String
  /-- The line without the server that a path can begin with. -/
  route : String
  /-- Nothing where an escape of the path is no text. -/
  resource : Option String
  query : String
  deriving DecidableEq, Repr

namespace Target

def scheme : String := "http"

/-- The root of the server as it is written in front of a target. -/
def root : String := "http://localhost"

/-- A path that is no place in a hierarchy may itself be an absolute URL, of which the path counts.
-/
def withoutServer (line : List Char) : List Char :=
  match ["http://", "https://"].find? fun start => start.toList.isPrefixOf line with
  | none => line
  | some start =>
    match (line.drop start.length).dropWhile (· ≠ '/') with
    | [] => line
    | path => path

def endsPath (c : Char) : Bool := c == '?' || c == ';' || c == '#'

/-- The path of a line, and what follows the character that ends it. -/
def splitPath (line : List Char) : List Char × List Char :=
  let rest := line.drop 1
  (line.take 1 ++ rest.takeWhile (!endsPath ·), (rest.dropWhile (!endsPath ·)).drop 1)

/-- The characters whose escapes are not resolved in a path. -/
def hasMeaning (c : Char) : Bool := "#$&+,/:;=?@".toList.contains c

def staysEscaped (c : Char) : Bool := hasMeaning c || c == '%'

/-- Whether a text has a percent sign that does not begin the escape of a character with a
meaning. -/
def hasOtherEscape : List Char → Bool
  | [] => false
  | '%' :: high :: low :: rest =>
    match Hex.digit? high, Hex.digit? low with
    | some h, some l => !hasMeaning (Char.ofNat (16 * h + l)) || hasOtherEscape rest
    | _, _ => true
  | c :: rest => c == '%' || hasOtherEscape rest

/-- The text without its first 16-bit unit; half a character is no character. -/
def withoutFirstUnit : List Char → List Char
  | [] => []
  | c :: rest => if c.toNat < 0x10000 then rest else '\ufffd' :: rest

/-- The path is resolved as a whole where it has anything to resolve behind its first character. -/
def resource? (path : List Char) : Option String :=
  if hasOtherEscape (path.drop 1) then
    match path with
    | '%' :: '2' :: '5' :: rest => Percent.textKeeping? staysEscaped rest
    | _ =>
      (Percent.textKeeping? staysEscaped path).map fun text =>
        String.ofList (withoutFirstUnit text.toList)
  else some (String.ofList (path.drop 1))

def ofLine (line : List Char) : Target :=
  let route := withoutServer line
  let (path, query) := splitPath route
  ⟨String.ofList line, String.ofList route, resource? path, String.ofList query⟩

/-- Nothing if the text is no URL.  Two slashes at the front belong to the path. -/
def ofText? (text : String) : Option Target :=
  let whole := if ['/', '/'].isPrefixOf text.toList then root ++ text else text
  (Url.ofText? (some scheme) whole).map fun url => ofLine url.requestLine

end Target
end SlabBook.Http

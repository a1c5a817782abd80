import SlabBook.Text.Basic

/-!
# Media types

The media type of a content is a type and a subtype, and parameters after semicolons.  A text
with anything else in it names no media type.  Type and subtype have the characters of tokens but
the backtick.
-/

namespace SlabBook.Http.MediaType

def isTokenChar (c : Char) : Bool := c.isAlphanum || "!#$%&\x27*+.^_\x60|~-".toList.contains c

def isToken (cs : List Char) : Bool := cs ≠ [] && cs.all isTokenChar

/-- Whether a text may be a type or a subtype. -/
def isKind (cs : List Char) : Bool := isToken cs && !cs.contains '\x60'

def isQuotable (c : Char) : Bool :=
  c.toNat == 0x0b || (0x20 ≤ c.toNat && c.toNat ≤ 0xff && c.toNat ≠ 0x7f)

/-- What follows the end of a quoted value that has begun. -/
def afterQuoted? : List Char → Option (List Char)
  | '"' :: rest => some rest
  | '\\' :: c :: rest =>
    if isQuotable c ∨ c.toNat = 0x7f then afterQuoted? rest else none
  | c :: rest => if isQuotable c ∧ c ≠ '\\' then afterQuoted? rest else none
  | [] => none

/-- What follows the value of a parameter. -/
def afterValue? (cs : List Char) : Option (List Char) :=
  match cs with
  | '"' :: rest => afterQuoted? rest
  | _ => if isToken (cs.takeWhile isTokenChar) then some (cs.dropWhile isTokenChar) else none

/-- What follows a parameter, which begins with its semicolon. -/
def afterParameter? (cs : List Char) : Option (List Char) :=
  match cs with
  | ';' :: rest =>
    let rest := rest.dropWhile (· = ' ')
    match isToken (rest.takeWhile isTokenChar), rest.dropWhile isTokenChar with
    | true, '=' :: value => (afterValue? value).map (·.dropWhile (· = ' '))
    | _, _ => none
  | _ => none

/-- Whether a text consists of at most the given number of parameters. -/
def areParameters : (count : Nat) → List Char → Bool
  | _, [] => true
  | 0, _ => false
  | count + 1, cs => (afterParameter? cs).any (areParameters count)

/-- Type and subtype in small letters, if the text names a media type. -/
def essence? (text : String) : Option (List Char) :=
  let cs := text.toList
  let parameters := cs.dropWhile (· ≠ ';')
  let essence := Text.trim (cs.takeWhile (· ≠ ';'))
  match Text.split '/' essence with
  | [kind, subkind] =>
    if isKind kind ∧ isKind subkind ∧ areParameters parameters.length parameters then
      some (essence.map Char.toLower)
    else none
  | _ => none

end SlabBook.Http.MediaType

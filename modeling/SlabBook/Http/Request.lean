import SlabBook.Http.MediaType
import SlabBook.Http.Problem
import SlabBook.Number.Literal

/-!
# Requests and their contents

A request is a method, a target and headers.  No request carries any content, so what its headers
say about one may be wrong: a length that is not zero, or a media type of which an empty content
is no instance.
-/

namespace SlabBook.Http

structure Request where
  method : String
  url : String
  headers : List (String × String)
  deriving DecidableEq, Repr

namespace Request

def methods : List String :=
  ["ACL", "BIND", "CHECKOUT", "CONNECT", "COPY", "DELETE", "GET", "HEAD", "LINK", "LOCK",
    "M-SEARCH", "MERGE", "MKACTIVITY", "MKCALENDAR", "MKCOL", "MOVE", "NOTIFY", "OPTIONS",
    "PATCH", "POST", "PROPFIND", "PROPPATCH", "PURGE", "PUT", "REBIND", "REPORT", "SEARCH",
    "SOURCE", "SUBSCRIBE", "TRACE", "UNBIND", "UNLINK", "UNLOCK", "UNSUBSCRIBE"]

/-- A method is written in capitals or in small letters. -/
def isMethod (text : String) : Bool :=
  methods.any fun method => text = method || text = method.toLower

/-- The method in capitals. -/
def verb (request : Request) : String := request.method.toUpper

/-- Header names are compared without regard to case; of several headers the last one counts. -/
def header? (request : Request) (name : String) : Option String :=
  (request.headers.filter fun entry => entry.1.toLower = name).getLast?.map (·.2)

/-- A header that is not empty. -/
def filled? (request : Request) (name : String) : Option String :=
  (request.header? name).filter (· ≠ "")

def contentLimit : Int := 1048576

/-- What is wrong with the length that is announced.  A text that is no number announces none. -/
def lengthProblem? (request : Request) : Option Problem :=
  (request.header? "content-length").bind fun text =>
    let length := Literal.number text
    if length.gt contentLimit then some .contentTooLarge
    else if length = .nan ∨ length.whole? = some 0 then none
    else some .contentLength

/-- Methods whose content is read whenever its type is named. -/
def contentMethods : List String :=
  ["LOCK", "MKCALENDAR", "MKCOL", "MOVE", "PATCH", "POST", "PROPFIND", "PROPPATCH", "PUT",
    "REPORT", "SEARCH", "TRACE"]

/-- The media type of a content that is going to be read. -/
def contentType? (request : Request) : Option String :=
  let announced := (request.header? "content-length").isSome ||
    (request.header? "transfer-encoding").isSome
  if contentMethods.contains request.verb ∨ (request.verb = "DELETE" ∧ announced) then
    request.header? "content-type"
  else none

/-- What is wrong with the content.  Contents of unknown media types are not read. -/
def contentProblem? (request : Request) : Option Problem :=
  match (request.contentType?).bind MediaType.essence? with
  | none => none
  | some essence =>
    let json := Text.occurs "application/json".toList essence
    let text := Text.occurs "text/plain".toList essence
    if json then request.lengthProblem?.or (some .emptyJson)
    else if text then request.lengthProblem?
    else none

end Request
end SlabBook.Http

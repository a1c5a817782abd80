/-!
# Problems with requests

A request that cannot be made is refused.  A request that fails gets a status, a short code for
some of the causes, and a message.
-/

namespace SlabBook.Http

/-- Why a request cannot be made at all. -/
inductive Refusal where
  | unknownMethod
  | noTarget
  | badUrl
  deriving DecidableEq, Repr

inductive Problem where
  | notFound (method line : String)
  | badTarget (line : String)
  | emptyJson
  | contentLength
  | contentTooLarge
  /-- What is served has no sides. -/
  | notABook
  /-- The answer that was meant, of which the status is given, cannot be sent with such a header. -/
  | invalidHeader (meant : Nat) (name : String)
  deriving DecidableEq, Repr

namespace Refusal

def message : Refusal → String
  | .unknownMethod => "must be equal to one of the allowed values"
  | .noTarget => "Cannot read properties of undefined (reading \x27query\x27)"
  | .badUrl => "Invalid URL"

end Refusal

namespace Problem

/-- Of an answer that cannot be sent the status stays if it was that of a failure. -/
def status : Problem → Nat
  | .notFound _ _ => 404
  | .badTarget _ => 400
  | .emptyJson => 400
  | .contentLength => 400
  | .contentTooLarge => 413
  | .notABook => 500
  | .invalidHeader meant _ => if meant < 400 then 500 else meant

/-- The words for the status. -/
def reason (problem : Problem) : String :=
  match problem.status with
  | 400 => "Bad Request"
  | 404 => "Not Found"
  | 413 => "Payload Too Large"
  | 503 => "Service Unavailable"
  | _ => "Internal Server Error"

def code? : Problem → Option String
  | .badTarget _ => some "FST_ERR_BAD_URL"
  | .emptyJson => some "FST_ERR_CTP_EMPTY_JSON_BODY"
  | .contentLength => some "FST_ERR_CTP_INVALID_CONTENT_LENGTH"
  | .contentTooLarge => some "FST_ERR_CTP_BODY_TOO_LARGE"
  | .invalidHeader _ _ => some "ERR_INVALID_CHAR"
  | .notFound _ _ | .notABook => none

def message : Problem → String
  | .notFound method line => s!"Route {method}:{line} not found"
  | .badTarget line => "\x27" ++ line ++ "\x27 is not a valid url component"
  | .emptyJson => "Body cannot be empty when content-type is set to \x27application/json\x27"
  | .contentLength => "Request body size did not match Content-Length"
  | .contentTooLarge => "Request body is too large"
  | .notABook => "Cannot read properties of undefined (reading \x27slice\x27)"
  | .invalidHeader _ name => "Invalid character in header content [\"" ++ name ++ "\"]"

/-- The answer to a bad target, which is quoted as it stands: with a backslash in it the answer may
read differently, or not at all. -/
def badTargetText (line : String) : String :=
  "\x7b\"error\":\"Bad Request\",\"code\":\"FST_ERR_BAD_URL\",\"message\":\"" ++
    (badTarget line).message ++ "\",\"statusCode\":400\x7d"

end Problem
end SlabBook.Http

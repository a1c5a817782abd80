import SlabBook.Http.Header
import SlabBook.Http.Request
import SlabBook.Http.Query
import SlabBook.Http.Target
import SlabBook.Live.Liveness
import SlabBook.Live.OrderBook
import SlabBook.Number.Range

/-!
# The read-only server

Two resources are served: the health of the watched feeds, and the newest orders of the book up
to a depth.  Health is bad when any feed has been silent for too long.  Requests from other
origins are admitted by their origin alone.
-/

namespace SlabBook.Http

inductive Body where
  | empty
  | text (text : String)
  | health (report : LivenessReport)
  | book (bids asks : List OrderRecord) (bidCount askCount : Nat)
  | invalidQuery (issues : List RangeIssue)
  | problem (problem : Problem)
  deriving DecidableEq, Repr

structure Response where
  status : Nat
  cacheControl : Option String := none
  allowOrigin : Option String := none
  allowMethods : Option String := none
  allowHeaders : Option String := none
  body : Body
  deriving DecidableEq, Repr

/-- What the server answers from.  Without listed origins every origin is admitted, and with an
asterisk among them answers are open to all. -/
structure Server where
  report : LivenessReport
  /-- Nothing if what is served is no book. -/
  book : Option BookView
  origins : List String
  deriving DecidableEq, Repr

namespace Response

def ofProblem (problem : Problem) : Response where
  status := problem.status
  body := .problem problem

/-- What is sent for a response.  Headers that come from the request are written one after the
other; one that cannot be written turns the response into a problem with the headers before it.
-/
def sent (response : Response) : Response :=
  let problem := fun name => ofProblem (.invalidHeader response.status name)
  if !response.allowOrigin.all Header.isValue then problem "access-control-allow-origin"
  else if !response.allowHeaders.all Header.isValue then
    { problem "access-control-allow-headers" with
      allowOrigin := response.allowOrigin, allowMethods := response.allowMethods }
  else response

end Response

namespace Server

def defaultDepth : Int := 50

def depthRange : Range := ⟨1, 1000⟩

/-- A depth that is given more than once is no number. -/
def depth (query : String) : Except (List RangeIssue) Int :=
  match Query.values query "depth" with
  | [] => .ok defaultDepth
  | [text] => depthRange.check (Literal.number text)
  | _ => .error [.notANumber]

def health (server : Server) : Response where
  status := if server.report.ok then 200 else 503
  cacheControl := some "no-store"
  body := .health server.report

def orders (server : Server) (query : String) : Response :=
  match depth query with
  | .error issues => { status := 400, body := .invalidQuery issues }
  | .ok depth =>
    match server.book with
    | none => { Response.ofProblem .notABook with cacheControl := some "no-store" }
    | some book =>
      let first (side : List Order) := (side.take depth.toNat).map Order.record
      { status := 200
        cacheControl := some "no-store"
        body := .book (first book.bids) (first book.asks) book.bids.length book.asks.length }

def admits (server : Server) (origin : String) : Bool :=
  server.origins.isEmpty || server.origins.contains origin

def allowOrigin (server : Server) (request : Request) : Option String :=
  if server.origins.contains "*" then some "*"
  else (request.filled? "origin").filter server.admits

/-- The answer to a request that asks what it may ask.  Whatever headers it asks for are allowed.
-/
def preflight (request : Request) : Response :=
  match request.filled? "origin", request.filled? "access-control-request-method" with
  | some _, some _ =>
    { status := 204
      allowMethods := some "GET"
      allowHeaders := request.header? "access-control-request-headers"
      body := .empty }
  | _, _ => { status := 400, body := .text "Invalid Preflight Request" }

/-- The resources, which are read with GET or HEAD. -/
def read? (server : Server) (resource query : String) : Option Response :=
  if resource = "api/v1/health" then some server.health
  else if resource = "api/v1/book" then some (server.orders query)
  else none

def reads (method : String) : Bool := method = "GET" || method = "HEAD"

/-- The answer where no resource is read; a bad content is noticed before that. -/
def refuse (request : Request) (line : String) : Response :=
  .ofProblem ((request.contentProblem?).getD (.notFound request.verb line))

/-- The answer to a request for a resource.  HEAD gets the answer to GET without its body. -/
def dispatch (server : Server) (request : Request) (line resource query : String) : Response :=
  if request.verb = "OPTIONS" then preflight request
  else
    match if reads request.verb then server.read? resource query else none with
    | none => refuse request line
    | some answer => if request.verb = "HEAD" then { answer with body := .empty } else answer

/-- A target that names nothing is answered before anything else is looked at. -/
def answer (server : Server) (request : Request) (target : Target) : Response :=
  match target.resource with
  | none =>
    if reads request.verb ∨ request.verb = "OPTIONS" then .ofProblem (.badTarget target.route)
    else .ofProblem (.notFound request.verb target.line)
  | some resource =>
    Response.sent
      { server.dispatch request target.line resource target.query with
        allowOrigin := server.allowOrigin request }

/-- The answer to a request, unless it cannot be made at all. -/
def respond (server : Server) (request : Request) : Except Refusal Response :=
  if !Request.isMethod request.method then .error .unknownMethod
  else if request.url = "" then .error .noTarget
  else
    match Target.ofText? request.url with
    | none => .error .badUrl
    | some target => .ok (server.answer request target)

end Server
end SlabBook.Http

import SlabBook.Account

/-!
# Connections

A connection stores the accounts of a table and tells listeners of changes.  A call on it may
find changes under way: a plan, queued for the next call of its kind, says which changes happen
before and after the call takes effect, and whether the call fails.  Nothing happens after the
removal of a listener.
-/

namespace SlabBook

inductive Commitment where
  | processed | confirmed | finalized
  deriving DecidableEq, Repr

structure Stored where
  data : Bytes
  slot : Option Int
  deriving DecidableEq, Repr

/-- A change of the world outside: `announce` tells listeners of a version that is not stored,
`publish` stores it first, and `advance` moves the clock by a span that may be negative. -/
inductive Change where
  | store (address : Address) (version : Stored)
  | announce (address : Address) (version : Stored)
  | publish (address : Address) (version : Stored)
  | remove (address : Address)
  | advance (elapsed : Int)
  deriving DecidableEq, Repr

/-- Where deliveries to a listener go. -/
inductive Sink where
  | subscription (index : Nat)
  | watcher (index : Nat)
  deriving DecidableEq, Repr

structure Listener where
  id : Nat
  address : Address
  sink : Sink
  deriving DecidableEq, Repr

inductive CallKind where
  | fetch | subscribe | unsubscribe
  deriving DecidableEq, Repr

/-- A call with the empty plan takes effect at once. -/
structure Plan where
  before : List Change := []
  after : List Change := []
  failure : Option String := none
  retain : Bool := false
  deriving DecidableEq, Repr

/-- Listeners are kept in the order of their ids. -/
structure Connection where
  table : List (Address × Stored)
  listeners : List Listener
  nextListener : Nat
  plans : List (CallKind × Plan)
  deriving DecidableEq, Repr

namespace Commitment

def toText : Commitment → String
  | .processed => "processed"
  | .confirmed => "confirmed"
  | .finalized => "finalized"

def ofText? (text : String) : Option Commitment :=
  [.processed, .confirmed, .finalized].find? fun commitment => commitment.toText = text

end Commitment

namespace Connection

def empty : Connection := ⟨[], [], 1, []⟩

/-- The owner of every account in the table. -/
def owner : Address := .fill 0xee

def find? (connection : Connection) (address : Address) : Option Stored :=
  connection.table.lookup address

def forget (connection : Connection) (address : Address) : Connection :=
  { connection with table := connection.table.filter fun entry => entry.1 ≠ address }

def store (connection : Connection) (address : Address) (version : Stored) : Connection :=
  { connection with table := (address, version) :: (connection.forget address).table }

/-- The listeners of an address. -/
def audience (connection : Connection) (address : Address) : List Listener :=
  connection.listeners.filter fun listener => listener.address = address

/-- The connection with one more listener, whose id is the old `nextListener`. -/
def attach (connection : Connection) (address : Address) (sink : Sink) : Connection :=
  { connection with
    listeners := connection.listeners ++ [⟨connection.nextListener, address, sink⟩]
    nextListener := connection.nextListener + 1 }

def detach (connection : Connection) (id : Nat) : Connection :=
  { connection with listeners := connection.listeners.filter fun listener => listener.id ≠ id }

def queue (connection : Connection) (kind : CallKind) (plan : Plan) : Connection :=
  { connection with plans := connection.plans ++ [(kind, plan)] }

/-- The plan for the next call of a kind. -/
def nextPlan (connection : Connection) (kind : CallKind) : Plan :=
  (connection.plans.lookup kind).getD {}

/-- The connection after the next plan of a kind has been taken from the queue. -/
def takePlan (connection : Connection) (kind : CallKind) : Connection :=
  { connection with plans := connection.plans.eraseP fun entry => entry.1 = kind }

end Connection

namespace Stored

/-- The account as it reaches a reader. -/
def account (version : Stored) (address : Address) : Account :=
  ⟨address, version.data, some Connection.owner, version.slot⟩

end Stored
end SlabBook

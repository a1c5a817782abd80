import SlabBook.Book.Error
import SlabBook.Live.Connection

/-!
# Faults and events

A fault is why an operation of a live session failed.  Events are what passes between a session
and the outside: changes of the world, calls on the connection and what comes of them, accounts
delivered to listeners, log records, and malformed updates handed to a watcher's handler.
-/

namespace SlabBook

inductive Fault where
  | accountNotFound (address : Address)
  | payload (cause : PayloadError)
  | failure (message : String)
  deriving DecidableEq, Repr

/-- A delivered account that did not decode. -/
structure MalformedUpdate where
  address : Address
  cause : PayloadError
  deriving DecidableEq, Repr

inductive LogLevel where
  | debug | warn
  deriving DecidableEq, Repr

inductive LogRecord where
  | started (feed : String) (address : Address)
  | disposed (feed : String) (address : Address)
  | skippedStale (feed : String) (address : Address) (slot : Option Int) (latest : Int)
  | droppedMalformed (feed : String) (slot : Option Int) (update : MalformedUpdate)
  deriving DecidableEq, Repr

/-- `returned` is what a fetch found when it looked, and `attached` is the listener that a
subscription made. -/
inductive Event where
  | changed (change : Change)
  | fetched (address : Address) (commitment : Commitment)
  | returned (address : Address) (found : Option Account)
  | subscribed (address : Address) (commitment : Commitment)
  | attached (listener : Listener)
  | unsubscribed (listener : Nat)
  | delivered (time : Int) (listener : Listener) (account : Account)
  | listenerThrew (listener : Nat) (message : String)
  | logged (entry : LogRecord)
  | reported (update : MalformedUpdate)
  deriving DecidableEq, Repr

namespace MalformedUpdate

def message (update : MalformedUpdate) : String :=
  s!"malformed_update: {update.address.toText}: {update.cause.message}"

end MalformedUpdate

namespace Fault

def message : Fault → String
  | .accountNotFound address => s!"account_not_found: {address.toText}"
  | .payload cause => cause.message
  | .failure message => message

/-- The short name of a fault of the book itself; a failure of anything else has none. -/
def code? : Fault → Option String
  | .accountNotFound _ => some "account_not_found"
  | .payload (.sizeMismatch _ _) => some "decode_size_mismatch"
  | .payload (.corruptTree _) => some "corrupt_tree"
  | .payload (.sideMismatch _ _) => some "side_mismatch"
  | _ => none

end Fault

namespace LogLevel

def toText : LogLevel → String
  | .debug => "debug"
  | .warn => "warn"

end LogLevel

namespace LogRecord

def level : LogRecord → LogLevel
  | .droppedMalformed _ _ _ => .warn
  | _ => .debug

def message : LogRecord → String
  | .started _ _ => "watcher started"
  | .disposed _ _ => "watcher disposed"
  | .skippedStale _ _ _ _ => "skipped stale update"
  | .droppedMalformed _ _ _ => "dropped malformed update"

def feed : LogRecord → String
  | .started feed _ => feed
  | .disposed feed _ => feed
  | .skippedStale feed _ _ _ => feed
  | .droppedMalformed feed _ _ => feed

def address : LogRecord → Address
  | .started _ address => address
  | .disposed _ address => address
  | .skippedStale _ address _ _ => address
  | .droppedMalformed _ _ update => update.address

def slot? : LogRecord → Option Int
  | .skippedStale _ _ slot _ => slot
  | .droppedMalformed _ slot _ => slot
  | _ => none

def latest? : LogRecord → Option Int
  | .skippedStale _ _ _ latest => some latest
  | _ => none

def update? : LogRecord → Option MalformedUpdate
  | .droppedMalformed _ _ update => some update
  | _ => none

end LogRecord
end SlabBook

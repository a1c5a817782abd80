import SlabBook.Book.Order
import SlabBook.Live.Event
import SlabBook.Live.Watch

/-!
# Watchers

A watcher is a watch at work: it knows how its account is read, the feed it reports its life to,
whether it logs, what it does about malformed updates, and the listener that it releases when it is
disposed.  `α` is the type of what the callers' own decoders answer.
-/

namespace SlabBook

/-- How a watched account is read: by a decoder of the caller's own, or as one side of a book. -/
inductive Format (α : Type) where
  | own (decode : Account → Except PayloadError α)
  | side (kind : SideKind) (market : Market) (capacity : Capacity)

/-- What was read: a value of the caller's own decoder, or the orders of a side. -/
inductive Snapshot (α : Type) where
  | own (value : α)
  | orders (orders : List Order)
  deriving DecidableEq, Repr

/-- What becomes of a malformed update once it is logged. -/
inductive Handler where
  | absent
  | reports
  | throws (message : String)
  deriving DecidableEq, Repr

/-- Which of the session's services a watcher is given. -/
structure WatchOptions where
  liveness : Bool := true
  logger : Bool := true
  handler : Handler := .reports
  deriving DecidableEq, Repr

structure WatchRequest (α : Type) where
  name : String
  address : Address
  format : Format α
  options : WatchOptions := {}

/-- How far the disposal of a watcher has come: the connection was asked to remove the listener and
will answer as the plan of that call says, or it has answered. -/
inductive Disposal where
  | pending (plan : Plan)
  | settled (outcome : Except Fault Unit)

structure Watcher (α : Type) where
  request : WatchRequest α
  watch : Watch (Snapshot α)
  feed : Option Nat
  listener : Option Nat
  disposal : Option Disposal

namespace Format

variable {α : Type}

def decode : Format α → Account → Except PayloadError (Snapshot α)
  | .own decode, account => (decode account).map .own
  | .side kind market capacity, account =>
    (decodeOrders account kind market capacity).map .orders

end Format

namespace Snapshot

def orders? {α : Type} : Snapshot α → Option (List Order)
  | .orders found => some found
  | .own _ => none

end Snapshot

namespace WatchRequest

/-- The request for one side of a book. -/
def side {α : Type} (kind : SideKind) (address : Address) (market : Market) (capacity : Capacity)
    (options : WatchOptions) : WatchRequest α :=
  ⟨s!"orderbook_{kind.toText}_subscription", address, .side kind market capacity, options⟩

end WatchRequest

namespace Disposal

def outcome? : Disposal → Option (Except Fault Unit)
  | .pending _ => none
  | .settled outcome => some outcome

end Disposal

namespace Watcher

variable {α : Type}

def latest (watcher : Watcher α) : Snapshot α := watcher.watch.latest

end Watcher
end SlabBook

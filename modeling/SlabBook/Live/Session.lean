import SlabBook.Live.Liveness
import SlabBook.Live.Watcher

/-!
# Sessions

A session is everything that lives together: a clock, a liveness registry, a connection, and all
watchers ever begun, with a trace of what they did to the outside.  Every operation is a function
from a session to a session and an outcome.

Starting a watcher takes a first reading, attaches a listener and takes a second reading, since a
change between the first reading and the listener is never notified.  A start that fails after it
registered its feed gives the feed back, and one that fails after it attached its listener asks
for the listener's removal; a failure of that removal takes the place of the first one.
-/

namespace SlabBook

structure Session (α : Type) where
  clock : Int
  liveness : Liveness
  commitment : Commitment
  connection : Connection
  watchers : Array (Watcher α)
  trace : Array Event

namespace Session

variable {α : Type}

def start (clock allowedSilence : Int) (commitment : Commitment) : Session α where
  clock := clock
  liveness := .empty allowedSilence
  commitment := commitment
  connection := .empty
  watchers := #[]
  trace := #[]

def record (s : Session α) (event : Event) : Session α := { s with trace := s.trace.push event }

def setWatcher (s : Session α) (index : Nat) (watcher : Watcher α) : Session α :=
  { s with watchers := s.watchers.setIfInBounds index watcher }

def log (s : Session α) (options : WatchOptions) (entry : LogRecord) : Session α :=
  if options.logger then s.record (.logged entry) else s

def pingFeed (s : Session α) : Option Nat → Session α
  | none => s
  | some id => { s with liveness := s.liveness.ping id s.clock }

def dropFeed (s : Session α) : Option Nat → Session α
  | none => s
  | some id => { s with liveness := s.liveness.drop id }

/-! ## Deliveries -/

/-- A malformed update is logged and then handed to the watcher's handler, which may throw. -/
def reportMalformed (s : Session α) (request : WatchRequest α) (slot : Option Int)
    (cause : PayloadError) : Session α × Except Fault Unit :=
  let update : MalformedUpdate := ⟨request.address, cause⟩
  let s := s.log request.options (.droppedMalformed request.name slot update)
  match request.options.handler with
  | .absent => (s, .ok ())
  | .reports => (s.record (.reported update), .ok ())
  | .throws message => (s.record (.reported update), .error (.failure message))

/-- A notification reaches a watcher.  Hearing anything at all counts as life, unless the watcher
is disposed. -/
def notifyWatcher (s : Session α) (index : Nat) (account : Account) : Session α × Except Fault Unit :=
  match s.watchers[index]? with
  | none => (s, .ok ())
  | some watcher =>
    let request := watcher.request
    let (watch, reaction) := watcher.watch.notify request.format.decode s.clock account
    match reaction with
    | .ignored => (s, .ok ())
    | .stale latest =>
      ((s.pingFeed watcher.feed).log request.options
        (.skippedStale request.name request.address account.slot latest), .ok ())
    | .malformed cause =>
      (s.pingFeed watcher.feed).reportMalformed request account.slot cause
    | .applied => ((s.pingFeed watcher.feed).setWatcher index { watcher with watch }, .ok ())

/-- What a listener throws is noted and goes no further. -/
def deliver (s : Session α) (version : Stored) (listener : Listener) : Session α :=
  let account := version.account listener.address
  let s := s.record (.delivered s.clock listener account)
  match listener.sink with
  | .subscription _ => s
  | .watcher index =>
    match s.notifyWatcher index account with
    | (s, .ok ()) => s
    | (s, .error fault) => s.record (.listenerThrew listener.id fault.message)

/-- Delivers to the listeners of an address as they are when the announcement is made. -/
def announce (s : Session α) (address : Address) (version : Stored) : Session α :=
  (s.connection.audience address).foldl (fun s listener => s.deliver version listener) s

def store (s : Session α) (address : Address) (version : Stored) : Session α :=
  { s with connection := s.connection.store address version }

def forget (s : Session α) (address : Address) : Session α :=
  { s with connection := s.connection.forget address }

def change (s : Session α) (change : Change) : Session α :=
  let s := s.record (.changed change)
  match change with
  | .store address version => s.store address version
  | .announce address version => s.announce address version
  | .publish address version => (s.store address version).announce address version
  | .remove address => s.forget address
  | .advance elapsed => { s with clock := Clock.advance s.clock elapsed }

def changes (s : Session α) (list : List Change) : Session α := list.foldl change s

/-! ## Calls on the connection -/

/-- Takes the plan of a call and lets the changes before the call happen. -/
def enter (s : Session α) (kind : CallKind) (call : Event) : Session α × Plan :=
  let plan := s.connection.nextPlan kind
  let s := s.record call
  (({ s with connection := s.connection.takePlan kind }).changes plan.before, plan)

def fetch (s : Session α) (address : Address) : Session α × Except Fault (Option Account) :=
  let (s, plan) := s.enter .fetch (.fetched address s.commitment)
  match plan.failure with
  | some message => (s, .error (.failure message))
  | none =>
    let found := (s.connection.find? address).map fun version => version.account address
    ((s.record (.returned address found)).changes plan.after, .ok found)

def attachListener (s : Session α) (address : Address) (sink : Sink) : Session α :=
  ({ s with connection := s.connection.attach address sink }).record
    (.attached ⟨s.connection.nextListener, address, sink⟩)

/-- Answers the id of the new listener. -/
def subscribe (s : Session α) (address : Address) (sink : Sink) : Session α × Except Fault Nat :=
  let (s, plan) := s.enter .subscribe (.subscribed address s.commitment)
  match plan.failure with
  | some message => (s, .error (.failure message))
  | none =>
    let id := s.connection.nextListener
    ((s.attachListener address sink).changes plan.after, .ok id)

/-- What the connection makes of a removal that it was asked for; a plan may leave the listener
attached all the same.  Nothing happens after the removal. -/
def removeListener (s : Session α) (id : Nat) (plan : Plan) : Session α × Except Fault Unit :=
  match plan.failure with
  | some message => (s, .error (.failure message))
  | none =>
    (if plan.retain then s else { s with connection := s.connection.detach id }, .ok ())

def unsubscribe (s : Session α) (id : Nat) : Session α × Except Fault Unit :=
  let (s, plan) := s.enter .unsubscribe (.unsubscribed id)
  s.removeListener id plan

/-! ## Starting a watcher -/

/-- Registers the feed and adds the watcher, which has no listener yet. -/
def enlist (s : Session α) (request : WatchRequest α) (value : Snapshot α) (slot : Option Int) :
    Session α × Nat :=
  let feed := if request.options.liveness then some s.liveness.nextId else none
  let liveness :=
    if request.options.liveness then s.liveness.register request.name s.clock else s.liveness
  let watcher : Watcher α := ⟨request, .seed value slot s.clock, feed, none, none⟩
  ({ s with liveness, watchers := s.watchers.push watcher }, s.watchers.size)

/-- Disposes the watch and gives its feed back. -/
def retire (s : Session α) (index : Nat) : Session α :=
  match s.watchers[index]? with
  | none => s
  | some watcher =>
    (s.dropFeed watcher.feed).setWatcher index { watcher with watch := watcher.watch.dispose }

def holdListener (s : Session α) (index id : Nat) : Session α :=
  match s.watchers[index]? with
  | none => s
  | some watcher => s.setWatcher index { watcher with listener := some id }

/-- The second reading of a start. -/
def catchUp (s : Session α) (index : Nat) (request : WatchRequest α) : Session α × Except Fault Unit :=
  match s.fetch request.address with
  | (s, .error fault) => (s, .error fault)
  | (s, .ok none) => (s, .ok ())
  | (s, .ok (some account)) =>
    match s.watchers[index]? with
    | none => (s, .ok ())
    | some watcher =>
      let (watch, reaction) := watcher.watch.catchUp request.format.decode s.clock account
      match reaction with
      | .malformed cause => s.reportMalformed request account.slot cause
      | _ => (s.setWatcher index { watcher with watch }, .ok ())

/-- Ends a start that failed with the given fault after its listener was attached. -/
def giveUp (s : Session α) (index listener : Nat) (fault : Fault) : Session α × Fault :=
  match (s.retire index).unsubscribe listener with
  | (s, .ok ()) => (s, fault)
  | (s, .error later) => (s, later)

/-- Starts an enlisted watcher. -/
def attach (s : Session α) (index : Nat) (request : WatchRequest α) : Session α × Except Fault Unit :=
  match s.subscribe request.address (.watcher index) with
  | (s, .error fault) => (s.retire index, .error fault)
  | (s, .ok id) =>
    match (s.holdListener index id).catchUp index request with
    | (s, .ok ()) => (s.log request.options (.started request.name request.address), .ok ())
    | (s, .error fault) =>
      let (s, fault) := s.giveUp index id fault
      (s, .error fault)

/-- Starts a watcher and answers its index. -/
def watchAccount (s : Session α) (request : WatchRequest α) : Session α × Except Fault Nat :=
  match s.fetch request.address with
  | (s, .error fault) => (s, .error fault)
  | (s, .ok none) => (s, .error (.accountNotFound request.address))
  | (s, .ok (some initial)) =>
    match request.format.decode initial with
    | .error cause => (s, .error (.payload cause))
    | .ok value =>
      let (s, index) := s.enlist request value initial.slot
      match s.attach index request with
      | (s, .error fault) => (s, .error fault)
      | (s, .ok ()) => (s, .ok index)

/-! ## Disposing a watcher -/

/-- The outcome of a watcher's disposal, once the connection has answered. -/
def disposal? (s : Session α) (index : Nat) : Option (Except Fault Unit) :=
  ((s.watchers[index]?).bind (·.disposal)).bind (·.outcome?)

def setDisposal (s : Session α) (index : Nat) (disposal : Disposal) : Session α :=
  match s.watchers[index]? with
  | none => s
  | some watcher => s.setWatcher index { watcher with disposal := some disposal }

/-- Retires a watcher and asks for the removal of its listener, without waiting for the answer.  That
the watcher is being disposed is noted with the call, so only the first time does anything. -/
def startDisposal (s : Session α) (index : Nat) : Session α :=
  match s.watchers[index]? with
  | some ⟨_, _, _, some id, none⟩ =>
    let plan := s.connection.nextPlan .unsubscribe
    (((s.retire index).setDisposal index (.pending plan)).enter .unsubscribe (.unsubscribed id)).1
  | some ⟨_, _, _, none, none⟩ => (s.retire index).setDisposal index (.settled (.ok ()))
  | _ => s

/-- The connection answers the removal that a watcher asked for when it was disposed. -/
def finishDisposal (s : Session α) (index : Nat) : Session α :=
  match s.watchers[index]? with
  | some ⟨request, _, _, some id, some (.pending plan)⟩ =>
    match s.removeListener id plan with
    | (s, .error fault) => s.setDisposal index (.settled (.error fault))
    | (s, .ok ()) =>
      (s.setDisposal index (.settled (.ok ()))).log request.options
        (.disposed request.name request.address)
  | _ => s

def firstFault : List (Except Fault Unit) → Except Fault Unit
  | [] => .ok ()
  | .error fault :: _ => .error fault
  | .ok () :: rest => firstFault rest

/-- Disposes watchers, whatever becomes of any, and waits for the end of that: all removals are asked
for before one is answered.  The outcome is the first fault, where a disposal that ended earlier is known
before one that ends only now; so every disposal of one watcher has the outcome of the first. -/
def dispose (s : Session α) (indices : List Nat) : Session α × Except Fault Unit :=
  let earlier := indices.filterMap s.disposal?
  let s := indices.foldl startDisposal s
  let s := indices.foldl finishDisposal s
  (s, firstFault (earlier ++ indices.filterMap s.disposal?))

end Session
end SlabBook

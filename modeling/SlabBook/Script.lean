import SlabBook.Http.Server
import SlabBook.Live.Load

/-!
# Scripts

A script drives a session step by step: changes of the world outside, plans for the calls to
come, and every operation of the library.  A disposal is awaited, or it is left to itself, and then
anything may happen before the connection answers.  What a step makes is numbered from zero in a list of
its own kind: feeds, plain subscriptions, and handles on watchers, books and derived values.
-/

namespace SlabBook

/-- A value that can be read, and whether its own part of it has been disposed.  A single watcher
keeps that for itself. -/
structure Handle where
  source : Source
  disposed : Bool

inductive Part where
  | bids | asks | book
  deriving DecidableEq, Repr

inductive Step (α : Type) where
  | change (change : Change)
  | plan (kind : CallKind) (plan : Plan)
  | register (name : String)
  | ping (feed : Nat)
  | dropFeed (feed : Nat)
  | report
  | size
  | fetch (address : Address)
  | subscribe (address : Address)
  | unsubscribe (subscription : Nat)
  | load (address : Address) (market : Market) (capacity : Capacity)
  | watch (request : WatchRequest α)
  | watchBook (request : BookRequest)
  | derive (name : String) (handles : List Nat)
  | latest (handle : Nat) (part : Option Part)
  | frozen (handle : Nat)
  | dispose (handle : Nat) (part : Option Part)
  | startDisposal (handle : Nat) (part : Option Part)
  | finishDisposal (handle : Nat) (part : Option Part)
  | isDisposed (handle : Nat)
  | request (handle : Nat) (request : Http.Request)

inductive Answer (α : Type) where
  | nothing
  | feed (id : Nat) (name : String)
  | report (report : LivenessReport)
  | count (count : Nat)
  | account (found : Option Account)
  | subscription (index : Nat)
  | loaded (loaded : LoadedSide) (description : String)
  | handle (index : Nat) (name : String)
  | value (value : Value α)
  | immutable
  | disposed (disposed : Bool)
  | bookDisposed (bids asks book : Bool)
  | response (response : Except Http.Refusal Http.Response)

structure Script (α : Type) where
  session : Session α
  handles : Array Handle
  feeds : Array Nat
  subscriptions : Array Nat
  origins : List String

namespace Script

variable {α : Type}

def start (session : Session α) (origins : List String) : Script α :=
  ⟨session, #[], #[], #[], origins⟩

def withSession (script : Script α) (session : Session α) : Script α := { script with session }

def addHandle (script : Script α) (source : Source) : Script α :=
  { script with handles := script.handles.push ⟨source, false⟩ }

def markDisposed (script : Script α) (index : Nat) : Script α :=
  { script with
    handles := script.handles.modify index fun handle => { handle with disposed := true } }

def source? (script : Script α) (index : Nat) : Option Source :=
  (script.handles[index]?).map (·.source)

/-- The source that a part of a book reads; any other value has no parts. -/
def partSource : Source → Option Part → Source
  | .book watchers, some .bids => .watcher watchers.bids
  | .book watchers, some .asks => .watcher watchers.asks
  | source, _ => source

def readOnly (script : Script α) (answer : Answer α) : Script α × Except Fault (Answer α) :=
  (script, .ok answer)

def ofSession {β : Type} (script : Script α) (answer : β → Answer α)
    (result : Session α × Except Fault β) : Script α × Except Fault (Answer α) :=
  (script.withSession result.1, result.2.map answer)

def subscribe (script : Script α) (address : Address) : Script α × Except Fault (Answer α) :=
  let index := script.subscriptions.size
  match script.session.subscribe address (.subscription index) with
  | (session, .error fault) => (script.withSession session, .error fault)
  | (session, .ok listener) =>
    ({ script with session, subscriptions := script.subscriptions.push listener },
      .ok (.subscription index))

def load (script : Script α) (address : Address) (market : Market) (capacity : Capacity) :
    Script α × Except Fault (Answer α) :=
  match script.session.loadSide address market capacity with
  | (session, .error fault) => (script.withSession session, .error fault)
  | (session, .ok loaded) =>
    (script.withSession session, (loaded.describe 10).map (.loaded loaded))

def watch (script : Script α) (request : WatchRequest α) : Script α × Except Fault (Answer α) :=
  match script.session.watchAccount request with
  | (session, .error fault) => (script.withSession session, .error fault)
  | (session, .ok index) =>
    ((script.withSession session).addHandle (.watcher index),
      .ok (.handle script.handles.size request.name))

def watchBook (script : Script α) (request : BookRequest) : Script α × Except Fault (Answer α) :=
  match script.session.watchBook request with
  | (session, .error fault) => (script.withSession session, .error fault)
  | (session, .ok watchers) =>
    ((script.withSession session).addHandle (.book watchers),
      .ok (.handle script.handles.size "orderbook"))

def derive (script : Script α) (name : String) (handles : List Nat) :
    Script α × Except Fault (Answer α) :=
  (script.addHandle (.all (handles.filterMap script.source?)),
    .ok (.handle script.handles.size name))

/-- The watchers that are disposed with a part of a value. -/
def targets : Source → Option Part → List Nat
  | .watcher index, _ => [index]
  | .book watchers, some .bids => [watchers.bids]
  | .book watchers, some .asks => [watchers.asks]
  | .book watchers, none => [watchers.bids, watchers.asks]
  | .book _, some .book => []
  | .all _, _ => []

/-- The script once a part of a value is disposed, as far as the value itself is concerned. -/
def withDisposed (script : Script α) (index : Nat) (part : Option Part) : Script α :=
  match script.source? index, part with
  | some (.book _), none => script.markDisposed index
  | some (.book _), some .book => script.markDisposed index
  | some (.all _), _ => script.markDisposed index
  | _, _ => script

/-- Disposes a part of a value and waits for the end of that. -/
def dispose (script : Script α) (index : Nat) (part : Option Part) :
    Script α × Except Fault (Answer α) :=
  match script.source? index with
  | none => script.readOnly .nothing
  | some source =>
    (script.withDisposed index part).ofSession (fun _ => .nothing)
      (script.session.dispose (targets source part))

/-- Disposes a part of a value and does not wait. -/
def startDisposal (script : Script α) (index : Nat) (part : Option Part) : Script α :=
  match script.source? index with
  | none => script
  | some source =>
    (script.withDisposed index part).withSession
      ((targets source part).foldl Session.startDisposal script.session)

/-- The connection answers the removals that a disposal has asked for. -/
def finishDisposal (script : Script α) (index : Nat) (part : Option Part) : Script α :=
  match script.source? index with
  | none => script
  | some source =>
    script.withSession ((targets source part).foldl Session.finishDisposal script.session)

def isDisposed (script : Script α) (index : Nat) : Answer α :=
  match script.handles[index]? with
  | none => .nothing
  | some ⟨.watcher watcher, _⟩ => .disposed (script.session.isDisposed watcher)
  | some ⟨.book watchers, disposed⟩ =>
    .bookDisposed (script.session.isDisposed watchers.bids)
      (script.session.isDisposed watchers.asks) disposed
  | some ⟨.all _, disposed⟩ => .disposed disposed

def report (script : Script α) : LivenessReport :=
  script.session.liveness.report script.session.clock

/-- Only a book has orders to serve; health is served with any value. -/
def respond (script : Script α) (index : Nat) (request : Http.Request) : Answer α :=
  match script.source? index with
  | none => .nothing
  | some source =>
    let book := match source with
      | .book watchers => some (script.session.bookView watchers)
      | _ => none
    let server : Http.Server := ⟨script.report, book, script.origins⟩
    .response (server.respond request)

def step (script : Script α) : Step α → Script α × Except Fault (Answer α)
  | .change change => (script.withSession (script.session.change change)).readOnly .nothing
  | .plan kind plan =>
    let session := script.session
    (script.withSession { session with connection := session.connection.queue kind plan }).readOnly
      .nothing
  | .register name =>
    let session := script.session
    let id := session.liveness.nextId
    let session := { session with liveness := session.liveness.register name session.clock }
    ({ script with session, feeds := script.feeds.push id }, .ok (.feed id name))
  | .ping feed =>
    (script.withSession (script.session.pingFeed script.feeds[feed]?)).readOnly .nothing
  | .dropFeed feed =>
    (script.withSession (script.session.dropFeed script.feeds[feed]?)).readOnly .nothing
  | .report => script.readOnly (.report script.report)
  | .size => script.readOnly (.count script.session.liveness.size)
  | .fetch address => script.ofSession .account (script.session.fetch address)
  | .subscribe address => script.subscribe address
  | .unsubscribe subscription =>
    match script.subscriptions[subscription]? with
    | none => script.readOnly .nothing
    | some listener =>
      script.ofSession (fun _ => .nothing) (script.session.unsubscribe listener)
  | .load address market capacity => script.load address market capacity
  | .watch request => script.watch request
  | .watchBook request => script.watchBook request
  | .derive name handles => script.derive name handles
  | .latest handle part =>
    match script.source? handle with
    | none => script.readOnly .nothing
    | some source => script.readOnly (.value (script.session.value (partSource source part)))
  | .frozen _ => script.readOnly .immutable
  | .dispose handle part => script.dispose handle part
  | .startDisposal handle part => (script.startDisposal handle part).readOnly .nothing
  | .finishDisposal handle part => (script.finishDisposal handle part).readOnly .nothing
  | .isDisposed handle => script.readOnly (script.isDisposed handle)
  | .request handle request => script.readOnly (script.respond handle request)

/-- The values of all handles. -/
def readings (script : Script α) : List (Value α) :=
  script.handles.toList.map fun handle => script.session.value handle.source

/-- The events since the trace had the given length. -/
def eventsSince (script : Script α) (length : Nat) : List Event :=
  (script.session.trace.extract length script.session.trace.size).toList

end Script
end SlabBook

import SlabBook.Live.Session

/-!
# Order books and derived values

An order book is two watchers, one for each side; its value is the pair of their values at the
time of reading.  If the second side cannot be watched the first one is released.  A derived
value is read through a handle: it names watchers and holds nothing itself.
-/

namespace SlabBook

/-- Both sides of a book at one time. -/
structure BookView where
  bids : List Order
  asks : List Order
  deriving DecidableEq, Repr

/-- The two watchers of a book, by index. -/
structure BookWatchers where
  bids : Nat
  asks : Nat
  deriving DecidableEq, Repr

/-- Where a value is read from. -/
inductive Source where
  | watcher (index : Nat)
  | book (watchers : BookWatchers)
  | all (sources : List Source)

inductive Value (α : Type) where
  | snapshot (snapshot : Snapshot α)
  | book (view : BookView)
  | all (values : List (Value α))

/-- What is watched at a book's two addresses. -/
structure BookRequest where
  bids : Address
  asks : Address
  market : Market
  capacity : Capacity
  options : WatchOptions := {}
  deriving DecidableEq, Repr

namespace Session

variable {α : Type}

/-- The orders of the newest snapshot of a side. -/
def sideOrders (s : Session α) (index : Nat) : List Order :=
  ((s.watchers[index]?).bind fun watcher => watcher.latest.orders?).getD []

def bookView (s : Session α) (book : BookWatchers) : BookView :=
  ⟨s.sideOrders book.bids, s.sideOrders book.asks⟩

mutual

def value (s : Session α) : Source → Value α
  | .watcher index =>
    match s.watchers[index]? with
    | some watcher => .snapshot watcher.latest
    | none => .all []
  | .book watchers => .book (s.bookView watchers)
  | .all sources => .all (s.values sources)

def values (s : Session α) : List Source → List (Value α)
  | [] => []
  | source :: rest => s.value source :: s.values rest

end

/-- Starts both sides, the bids first. -/
def watchBook (s : Session α) (request : BookRequest) : Session α × Except Fault BookWatchers :=
  let side kind address :=
    WatchRequest.side kind address request.market request.capacity request.options
  match s.watchAccount (side .bids request.bids) with
  | (s, .error fault) => (s, .error fault)
  | (s, .ok bids) =>
    match s.watchAccount (side .asks request.asks) with
    | (s, .ok asks) => (s, .ok ⟨bids, asks⟩)
    | (s, .error fault) =>
      match s.dispose [bids] with
      | (s, .ok ()) => (s, .error fault)
      | (s, .error later) => (s, .error later)

def isDisposed (s : Session α) (index : Nat) : Bool :=
  ((s.watchers[index]?).map (·.watch.disposed)).getD false

end Session
end SlabBook

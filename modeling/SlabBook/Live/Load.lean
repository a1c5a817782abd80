import SlabBook.Live.Session

/-!
# Loading a side on demand

One fetch and one decoding, without a watcher.
-/

namespace SlabBook

structure LoadedSide where
  account : Account
  side : BookSide
  deriving DecidableEq, Repr

namespace LoadedSide

/-- What the outcome of fetching an address comes to. -/
def ofFetched (address : Address) (market : Market) (capacity : Capacity) :
    Except Fault (Option Account) → Except Fault LoadedSide
  | .error fault => .error fault
  | .ok none => .error (.accountNotFound address)
  | .ok (some account) =>
    match BookSide.decode account market capacity with
    | .error cause => .error (.payload cause)
    | .ok side => .ok ⟨account, side⟩

def describe (loaded : LoadedSide) (depth : Nat) : Except Fault String :=
  (loaded.side.describe depth).mapError fun cause => .payload (.corruptTree cause)

end LoadedSide

namespace Session

def loadSide {α : Type} (s : Session α) (address : Address) (market : Market) (capacity : Capacity) :
    Session α × Except Fault LoadedSide :=
  let (s, fetched) := s.fetch address
  (s, LoadedSide.ofFetched address market capacity fetched)

end Session
end SlabBook

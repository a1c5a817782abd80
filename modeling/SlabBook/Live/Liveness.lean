import SlabBook.Live.Clock

/-!
# Liveness of feeds

A registry records when something was last heard from each registered feed and never acts on a
feed. Ids count up from one and are not used again; what happens to one feed leaves the others
alone.
-/

namespace SlabBook

structure Feed where
  id : Nat
  name : String
  registeredAt : Int
  lastActiveAt : Option Int
  deriving DecidableEq, Repr

structure FeedStatus where
  id : Nat
  name : String
  registeredAt : Int
  lastActiveAt : Option Int
  silence : Int
  active : Bool
  deriving DecidableEq, Repr

structure LivenessReport where
  ok : Bool
  allSilent : Bool
  allowedSilence : Int
  feeds : List FeedStatus
  deriving DecidableEq, Repr

/-- Registered feeds in the order of their registration. -/
structure Liveness where
  allowedSilence : Int
  feeds : List Feed
  nextId : Nat
  deriving DecidableEq, Repr

namespace Feed

/-- A feed that was never heard from is silent since its registration; a clock that ran back
counts as no silence. -/
def status (feed : Feed) (allowedSilence now : Int) : FeedStatus :=
  let silence := max 0 (Clock.between (feed.lastActiveAt.getD feed.registeredAt) now)
  ⟨feed.id, feed.name, feed.registeredAt, feed.lastActiveAt, silence,
    decide (silence ≤ allowedSilence)⟩

end Feed

namespace Liveness

def empty (allowedSilence : Int) : Liveness := ⟨allowedSilence, [], 1⟩

/-- The registry with one more feed, whose id is the old `nextId`. -/
def register (registry : Liveness) (name : String) (now : Int) : Liveness where
  allowedSilence := registry.allowedSilence
  feeds := registry.feeds ++ [⟨registry.nextId, name, now, none⟩]
  nextId := registry.nextId + 1

def ping (registry : Liveness) (id : Nat) (now : Int) : Liveness :=
  { registry with
    feeds := registry.feeds.map fun feed =>
      if feed.id = id then { feed with lastActiveAt := some now } else feed }

def drop (registry : Liveness) (id : Nat) : Liveness :=
  { registry with feeds := registry.feeds.filter fun feed => feed.id ≠ id }

def size (registry : Liveness) : Nat := registry.feeds.length

def report (registry : Liveness) (now : Int) : LivenessReport :=
  let feeds := registry.feeds.map fun feed => feed.status registry.allowedSilence now
  { ok := feeds.all (·.active)
    allSilent := !feeds.isEmpty && feeds.all (!·.active)
    allowedSilence := registry.allowedSilence
    feeds }

end Liveness
end SlabBook

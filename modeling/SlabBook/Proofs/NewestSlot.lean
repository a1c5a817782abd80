import SlabBook.Proofs.Streams

/-!
# The newest slot

A live watcher stands at the greatest slot of all accounts it received that decode, whether it
applied them or passed them over.  That slot decides about the next account: a notification is
applied unless it is from before it, a second reading unless it is not from after it.

* `Script.slot_is_newest` — for every watcher at every moment, and with its whole stream of accounts
  for every start.
-/

namespace SlabBook

variable {α : Type}

namespace Script

open Session

/-- At every moment every watcher has a history by which, until its disposal, it stands at the newest
slot.  For a watcher that a step starts, the history is known whole: the first reading, what was
delivered until the second look ended, what that look found, and what was delivered since; and a
reading answers what the watcher holds by it. -/
theorem slot_is_newest {script : Script α} (reached : script.Reached) :
    (∀ now, script.Later now → ∀ index watcher, now.session.watchers[index]? = some watcher →
      ∃ history, Lived now.session index watcher history ∧
        Watch.OrderlyThroughout watcher.request.format.decode watcher.watch history ∧
        (watcher.watch.disposed = false →
          Watch.Orderly watcher.request.format.decode watcher.watch history)) ∧
    ∀ step before request index part, Begins script step before request index part →
      ∃ listener first second ready,
        LooksTwice before request index listener first second ready ∧
        ∀ steps, ((script.step step).1.run steps).session.isDisposed index = false →
          ready.events <+: ((script.step step).1.run steps).events ∧
          ∃ watcher history,
            Follows request first second ready ((script.step step).1.run steps).session index
              watcher history ∧
            Watch.Orderly watcher.request.format.decode watcher.watch history ∧
            ((script.step step).1.run steps).Reads script.handles.size part
              (.snapshot watcher.latest) := by
  have aimed : Aimed script.session := reached.invariant aimed_start fun _ _ move => move.aimed
  constructor
  · intro now later index watcher found
    obtain ⟨history, lived⟩ :=
      Moves.allLived later.moves aimed reached.allLived index watcher found
    exact ⟨history, lived, lived.past.orderlyThroughout, lived.past.orderly⟩
  · intro step before request index part begins
    obtain ⟨started, source, begun⟩ := begins.begun
    obtain ⟨listener, first, second, ready, looks⟩ := watchAccount_ok begun.success
    refine ⟨listener, first, second, ready, looks, fun steps live => ?_⟩
    obtain ⟨grown, watcher, history, follows⟩ := looks.follows (Moves.aimed begun.earlier aimed)
      begun.success (begun.after.trans (onward_run _ steps))
    have undisposed := live_of_isDisposed live follows.lived.found
    exact ⟨grown, watcher, history, follows, follows.lived.past.orderly undisposed,
      reads_of_watcher (source?_run steps begun.known) begun.aimed follows.lived.found⟩

/-- A notification of the bytes. -/
def slotted (data : Bytes) (slot : Option Int) : Change := .announce (.fill 1) ⟨data, slot⟩

/-- Before the second look come notifications from an older slot, with a malformed account and
without a slot; the look itself finds the slot of the first one. -/
def unevenSlots : Script UInt8 :=
  (start (.start 0 1000 .confirmed) []).run
    [.change (.store (.fill 1) ⟨#[1], some 5⟩), .plan .fetch {},
      .plan .fetch { before := [slotted #[2] (some 4), slotted #[] (some 9), slotted #[3] none] }]

def unevenRequest : WatchRequest UInt8 := ⟨"uneven", .fill 1, .own firstByte, {}⟩

/-- Newer, older and repeated slots. -/
def unevenNotices : List (Step UInt8) :=
  [.change (slotted #[4] (some 7)), .change (slotted #[5] (some 6)), .change (slotted #[6] (some 7))]

/-- The newest slot is the seventh, and the account read is the last one from there. -/
theorem slot_is_newest_unevenSlots :
    ∃ watcher history,
      Lived ((unevenSlots.step (.watch unevenRequest)).1.run unevenNotices).session 0 watcher
        history ∧
      Watch.newest watcher.request.format.decode history = some 7 ∧
      ((unevenSlots.step (.watch unevenRequest)).1.run unevenNotices).Reads 0 none
        (.snapshot (.own 6)) := by
  have reached : unevenSlots.Reached := ⟨0, 1000, .confirmed, [], _, rfl⟩
  have answered : (unevenSlots.session.watchAccount unevenRequest).2.toOption = some 0 := by
    decide +kernel
  have begins : Begins unevenSlots (.watch unevenRequest) unevenSlots.session unevenRequest 0
      none := by
    rcases success : unevenSlots.session.watchAccount unevenRequest with ⟨started, outcome⟩
    rw [success] at answered
    cases outcome with
    | error fault => cases answered
    | ok index =>
      cases answered
      exact .watch success
  obtain ⟨_, follow⟩ := slot_is_newest reached
  obtain ⟨listener, first, second, ready, _, later⟩ := follow _ _ _ _ _ begins
  obtain ⟨_, watcher, history, follows, orderly, reads⟩ :=
    later unevenNotices (by decide +kernel)
  have held : ((((unevenSlots.step (.watch unevenRequest)).1.run
      unevenNotices).session.watchers[0]?).map fun watcher =>
        (watcher.watch.slot, watcher.latest)) = some (some 7, .own 6) := by
    decide +kernel
  simp only [follows.lived.found, Option.map_some, Option.some.injEq, Prod.mk.injEq] at held
  refine ⟨watcher, history, follows.lived, orderly.slot.symm.trans held.1, ?_⟩
  rw [← held.2]
  exact reads

end Script
end SlabBook

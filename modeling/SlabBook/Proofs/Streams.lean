import SlabBook.Proofs.TwoLooks

/-!
# What a started watcher receives

A step that starts a watcher gives it a first reading and perhaps a second one.  No step gives it
another, so that all else it receives is what it is notified of.

* `Script.onward_step`, `Script.onward_run` — no more readings;
* `Script.Receives`, `Script.Receives.lived` — the stream of what a watcher has received, and the
  history that comes of it.
-/

namespace SlabBook

variable {α : Type}

namespace Session

variable {s next : Session α} {index : Nat}

/-- A book that starts has started its bids and then its asks. -/
theorem watchBook_ok {request : BookRequest} {book : BookWatchers}
    (success : s.watchBook request = (next, .ok book)) :
    ∃ between,
      s.watchAccount (.side .bids request.bids request.market request.capacity request.options) =
        (between, .ok book.bids) ∧
      between.watchAccount
        (.side .asks request.asks request.market request.capacity request.options) =
        (next, .ok book.asks) := by
  cases watchBook_outcome success with
  | both first second => exact ⟨_, first, second⟩

end Session

namespace Script

open Session

variable {index : Nat}

/-! ## Starts -/

/-- The step starts a watcher: from which session, for which request, under which index, and which
part of the new handle reads it. -/
inductive Begins (script : Script α) : Step α → Session α → WatchRequest α → Nat → Option Part → Prop
  | watch {request : WatchRequest α} {started : Session α} {index : Nat}
      (success : script.session.watchAccount request = (started, .ok index)) :
      Begins script (.watch request) script.session request index none
  | bids {request : BookRequest} {started : Session α} {book : BookWatchers}
      (success : script.session.watchBook request = (started, .ok book)) :
      Begins script (.watchBook request) script.session
        (.side .bids request.bids request.market request.capacity request.options) book.bids
        (some .bids)
  | asks {request : BookRequest} {between started : Session α} {bids : Nat} {book : BookWatchers}
      (first : script.session.watchAccount
        (.side .bids request.bids request.market request.capacity request.options) =
        (between, .ok bids))
      (success : script.session.watchBook request = (started, .ok book)) :
      Begins script (.watchBook request) between
        (.side .asks request.asks request.market request.capacity request.options) book.asks
        (some .asks)

/-- A start succeeds, nothing the step does after it gives the watcher a reading, and the new handle
reads it. -/
structure Begun (script : Script α) (step : Step α) (before : Session α) (request : WatchRequest α)
    (index : Nat) (part : Option Part) (started : Session α) (source : Source) : Prop where
  success : before.watchAccount request = (started, .ok index)
  earlier : Moves script.session before
  after : Onward index started (script.step step).1.session
  known : (script.step step).1.source? script.handles.size = some source
  aimed : partSource source part = .watcher index

theorem Begins.begun {script : Script α} {step : Step α} {before : Session α} {request : WatchRequest α}
    {part : Option Part} (begins : Begins script step before request index part) :
    ∃ started source, Begun script step before request index part started source := by
  cases begins with
  | @watch _ started _ success =>
    refine ⟨started, .watcher index, success, .refl, ?_, ?_, rfl⟩
    · simp only [Script.step, Script.watch, success]
      exact .refl index started
    · simp only [Script.step, Script.watch, success]
      exact source?_addHandle_size _ _
  | @bids request last book success =>
    obtain ⟨between, first, second⟩ := watchBook_ok success
    refine ⟨between, .book book, first, .refl, ?_, ?_, rfl⟩
    · simp only [Script.step, Script.watchBook, success]
      exact onward_watchAccount second
    · simp only [Script.step, Script.watchBook, success]
      exact source?_addHandle_size _ _
  | @asks request _ last bids book first success =>
    obtain ⟨between, first_too, second⟩ := watchBook_ok success
    cases first.symm.trans first_too
    refine ⟨last, .book book, second, (started_of_ok first).moves, ?_, ?_, rfl⟩
    · simp only [Script.step, Script.watchBook, success]
      exact .refl _ last
    · simp only [Script.step, Script.watchBook, success]
      exact source?_addHandle_size _ _

theorem live_of_isDisposed {script : Script α} {watcher : Watcher α}
    (live : script.session.isDisposed index = false)
    (found : script.session.watchers[index]? = some watcher) : watcher.watch.disposed = false := by
  simpa only [Session.isDisposed, found, Option.map_some, Option.getD_some] using live

/-- The watcher was started for the request and is live.  It has received its first reading, what was
delivered until its second look ended, what that look found, and what was delivered since. -/
inductive Receives : Script α → Nat → WatchRequest α → List Input → Prop
  | intro {script : Script α} {step : Step α} {before : Session α} {request : WatchRequest α}
      {index : Nat} {part : Option Part} {listener : Nat} {first : Account} {second : Option Account}
      {ready : Session α} (reached : script.Reached)
      (begins : Begins script step before request index part)
      (looks : LooksTwice before request index listener first second ready) (steps : List (Step α))
      (live : ((script.step step).1.run steps).session.isDisposed index = false) :
      Receives ((script.step step).1.run steps) index request (.first first ::
        ((heardBy index ready.events).map .notified ++ second.toList.map .reread ++
          (heardBy index (((script.step step).1.run steps).events.drop
            ready.events.length)).map .notified))

theorem Receives.lived {now : Script α} {request : WatchRequest α} {inputs : List Input}
    (receives : now.Receives index request inputs) :
    ∃ watcher history, Lived now.session index watcher history ∧ watcher.request = request ∧
      history.map (·.input) = inputs := by
  obtain ⟨reached, begins, looks, steps, live⟩ := receives
  have aimed : Aimed _ := reached.invariant aimed_start fun _ _ move => move.aimed
  obtain ⟨started, source, begun⟩ := begins.begun
  obtain ⟨_, watcher, history, follows⟩ := looks.follows (Moves.aimed begun.earlier aimed)
    begun.success (begun.after.trans (onward_run _ steps))
  have undisposed := live_of_isDisposed live follows.lived.found
  exact ⟨watcher, history, follows.lived, follows.request, follows.inputs undisposed⟩

end Script
end SlabBook

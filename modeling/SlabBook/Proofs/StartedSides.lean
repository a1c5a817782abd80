import SlabBook.Proofs.Announcements
import SlabBook.Proofs.Frozen
import SlabBook.Proofs.Streams

/-!
# The sides of a book that was started

A side of a book that a script has started, and what the steps of the script come to for the state of
its watcher.

* `Script.Named` — the watcher belongs to one handle and holds its listener;
* `Script.sideState_step`, `Script.sideState_run` — the state is what it makes of what is announced;
* `Script.sideState_of_started` — a book that starts has two such sides.
-/

namespace SlabBook

variable {α : Type}

/-- The part of a book's handle that reads a side. -/
def SideKind.part : SideKind → Part
  | .bids => .bids
  | .asks => .asks

/-- The watcher of a side. -/
def BookWatchers.side (book : BookWatchers) : SideKind → Nat
  | .bids => book.bids
  | .asks => book.asks

theorem BookWatchers.side_mem (book : BookWatchers) (kind : SideKind) :
    book.side kind ∈ (Source.book book).watchers := by
  cases kind with
  | bids => exact List.mem_cons_self ..
  | asks => exact List.mem_cons_of_mem _ (List.mem_cons_self ..)

/-- One side of a book that was started: the handle and the watchers of the book, and the side's
address, with the listener and the feed that its watcher was given. -/
structure StartedSide where
  handle : Nat
  book : BookWatchers
  kind : SideKind
  address : Address
  listener : Nat
  feed : Option Nat
  deriving DecidableEq, Repr

namespace StartedSide

def index (side : StartedSide) : Nat := side.book.side side.kind

def part (side : StartedSide) : Part := side.kind.part

end StartedSide

/-- A listener is held by one watcher alone. -/
theorem Custody.Sound.holds {own : List Nat} {c : Custody} (sound : c.Sound own) {index id : Nat}
    {held : Tenure} (found : c.tenure index = some held) (listener : held.listener = some id)
    (ended : held.disposing = true → held.retired = true) : c.Holds index id where
  seat := ⟨held, found, listener, ended⟩
  sole := by
    intro position other there taken
    obtain ⟨mine, attached, rfl, sink⟩ := sound.listeners.holds index held id found listener
    obtain ⟨hers, attached_too, same, sink_too⟩ :=
      sound.listeners.holds position other _ there taken
    obtain rfl := Custody.eq_of_id sound.listeners.ids attached_too attached same
    cases sink_too.symm.trans sink
    rfl
  given := by
    obtain ⟨mine, attached, rfl, _⟩ := sound.listeners.holds index held id found listener
    exact sound.listeners.below mine attached

namespace Script

open Session

variable {allowed : Change → Prop} {script : Script α} {step : Step α} {handle index id : Nat}
  {book : BookWatchers} {started disposed : Nat → Prop}

/-! ## Holding a listener -/

/-- A plain subscription has another listener. -/
theorem Keeps.ne_of_subscription (kept : script.Keeps started disposed)
    (holds : script.session.custody.Holds index id) {subscription other : Nat}
    (mine : script.subscriptions[subscription]? = some other) : other ≠ id := by
  rintro rfl
  have sound := kept.sound.listeners
  obtain ⟨held, found, listener, _⟩ := holds.seat
  obtain ⟨own, attached, same, sink⟩ := sound.holds index held other found listener
  obtain ⟨plain, attached_too, same_too, elsewhere⟩ :=
    kept.elsewhere other (Array.mem_toList_iff.2 (Array.mem_of_getElem? mine))
  obtain rfl := Custody.eq_of_id sound.ids attached attached_too (same.trans same_too.symm)
  exact elsewhere index sink

/-! ## Steps -/

/-- What one step comes to for a watcher that holds a listener. -/
theorem hears_step (kept : script.Keeps started disposed)
    (holding : Holding allowed index id script.session) (allows : step.Allows allowed) :
    Holding allowed index id (script.step step).1.session ∧
      ∃ added, Hears allowed index id script.session (script.step step).1.session added := by
  have loose : ∀ other ∈ script.subscriptions.toList, other ≠ id := by
    intro other mine
    obtain ⟨subscription, there⟩ := List.getElem?_of_mem mine
    exact kept.ne_of_subscription holding.holds (Array.getElem?_toList.symm.trans there)
  have operates : Operates (.apart allowed index id) step.callsRegistry script.feeds.toList
      script.session (script.step step).1.session := operates_step holding.admits allows loose
  exact ⟨operates.holding holding, operates.hears holding kept.sound.feeds⟩

/-- A watcher goes on holding its listener, whatever the step. -/
theorem holding_step (kept : script.Keeps started disposed)
    (holding : Holding allowed index id script.session) (queues : step.Queues allowed) :
    Holding allowed index id (script.step step).1.session := by
  by_cases made : ∃ change, step = .change change
  · obtain ⟨change, rfl⟩ := made
    exact holding_change holding change
  · exact (hears_step kept holding ⟨fun change same => absurd ⟨change, same⟩ made, queues⟩).1

/-- What a step starts was not there before. -/
theorem absent_of_starts (kept : script.Keeps started disposed) {index : Nat}
    (starts : index ∈ script.starts step) : script.session.watchers[index]? = none := by
  have outside {index : Nat} (far : script.session.custody.size ≤ index) :
      script.session.watchers[index]? = none :=
    Array.getElem?_eq_none far
  cases step with
  | watch request =>
    simp only [Script.starts] at starts
    rcases result : script.session.watchAccount request with ⟨next, outcome⟩
    rw [result] at starts
    cases outcome with
    | error fault => cases starts
    | ok answer =>
      obtain ⟨rfl, _⟩ := (custody_watchAccount result).of_ok
      obtain rfl := List.mem_singleton.1 starts
      exact outside (Nat.le_refl _)
  | watchBook request =>
    simp only [Script.starts] at starts
    rcases result : script.session.watchBook request with ⟨next, outcome⟩
    rw [result] at starts
    rcases custody_watchBook kept.sound result with ⟨fault, rfl, _⟩ | ⟨between, rfl, rfl, _⟩
    · cases starts
    · have size : (script.session.custody.welcome (.side .bids request.bids request.market
          request.capacity request.options : WatchRequest α)).size =
            script.session.custody.size + 1 := by
        rw [Custody.welcome_eq]
        exact Custody.enlist_size
      rcases List.mem_pair.1 starts with rfl | rfl
      · exact outside (Nat.le_refl _)
      · exact outside (size ▸ Nat.le_succ _)
  | _ => cases starts

/-! ## The handle of a watcher -/

theorem source?_addHandle_cases {other : Nat} {added source : Source}
    (known : (script.addHandle added).source? other = some source) :
    script.source? other = some source ∨ (other = script.handles.size ∧ source = added) := by
  simp only [source?, addHandle, Array.getElem?_push] at known
  split at known
  · rename_i last
    exact .inr ⟨last, (Option.some.inj known).symm⟩
  · exact .inl known

/-- What a handle names was there before, or the handle is new and the step has just started it. -/
theorem source?_cases {other : Nat} {source : Source}
    (known : (script.step step).1.source? other = some source) :
    script.source? other = some source ∨
      (other = script.handles.size ∧ source.watchers ⊆ script.starts step) := by
  cases step with
  | subscribe address =>
    simp only [Script.step, Script.subscribe] at known
    split at known <;> exact .inl known
  | unsubscribe subscription =>
    simp only [Script.step] at known
    split at known <;> exact .inl known
  | load address market capacity =>
    simp only [Script.step, Script.load] at known
    split at known <;> exact .inl known
  | watch request =>
    simp only [Script.step, Script.watch] at known
    simp only [Script.starts]
    rcases result : script.session.watchAccount request with ⟨next, outcome⟩
    rw [result] at known
    cases outcome with
    | error fault => exact .inl known
    | ok index =>
      refine (source?_addHandle_cases known).imp_right ?_
      rintro ⟨last, rfl⟩
      exact ⟨last, List.Subset.refl _⟩
  | watchBook request =>
    simp only [Script.step, Script.watchBook] at known
    simp only [Script.starts]
    rcases result : script.session.watchBook request with ⟨next, outcome⟩
    rw [result] at known
    cases outcome with
    | error fault => exact .inl known
    | ok book =>
      refine (source?_addHandle_cases known).imp_right ?_
      rintro ⟨last, rfl⟩
      exact ⟨last, List.Subset.refl _⟩
  | derive name handles =>
    refine (source?_addHandle_cases known).imp_right ?_
    rintro ⟨last, rfl⟩
    exact ⟨last, List.nil_subset _⟩
  | latest handle part =>
    simp only [Script.step] at known
    split at known <;> exact .inl known
  | dispose there part =>
    exact .inl ((source?_dispose script there other part).1.symm.trans known)
  | startDisposal there part =>
    exact .inl ((source?_dispose script there other part).2.1.symm.trans known)
  | finishDisposal there part =>
    exact .inl ((source?_dispose script there other part).2.2.symm.trans known)
  | _ => exact .inl known

/-- The watcher is one of those of the book, which only this handle names, and holds its listener. -/
structure Named (allowed : Change → Prop) (script : Script α) (handle : Nat)
    (book : BookWatchers) (index id : Nat) : Prop where
  reached : script.Reached
  known : script.source? handle = some (.book book)
  owned : index ∈ (Source.book book).watchers
  sole : ∀ other source, script.source? other = some source → index ∈ source.watchers →
    other = handle
  holding : Holding allowed index id script.session

theorem named_step (named : script.Named allowed handle book index id)
    (queues : step.Queues allowed) :
    (script.step step).1.Named allowed handle book index id := by
  obtain ⟨started, disposed, kept⟩ := named.reached.keeps
  refine ⟨named.reached.run [step], source?_step step named.known, named.owned, ?_,
    holding_step kept named.holding queues⟩
  intro other source known member
  rcases source?_cases known with old | ⟨_, fresh⟩
  · exact named.sole other source old member
  · obtain ⟨watcher, found, _⟩ := named.holding.found
    cases (absent_of_starts kept (fresh member)).symm.trans found

/-! ## Disposals -/

/-- A step disposes a live watcher of the book if it says so. -/
theorem Named.isDisposed_step (named : script.Named allowed handle book index id)
    (live : script.session.isDisposed index = false) :
    (script.step step).1.session.isDisposed index = true ↔ index ∈ script.disposes step := by
  obtain ⟨started, disposed, kept⟩ := named.reached.keeps
  have begun := kept.owned _ (mem_sources named.known) index named.owned
  obtain ⟨watcher, found, _⟩ := named.holding.found
  obtain ⟨after, there, _⟩ := (moves_step script step).request found
  rw [isDisposed_of_found found] at live
  rw [isDisposed_of_found there]
  have before : ¬ disposed index :=
    ((kept.live index).1 ⟨_, custody_tenure found, live⟩).2
  have later := (keeps_step kept step).live index
  rw [← not_iff_not, Bool.not_eq_true]
  constructor
  · intro live_still
    exact fun disposes => (later.1 ⟨_, custody_tenure there, live_still⟩).2 (.inr disposes)
  · intro spared
    have gone : ¬ (disposed index ∨ index ∈ script.disposes step) := not_or.2 ⟨before, spared⟩
    obtain ⟨held, known, stays⟩ := later.2 ⟨.inl begun, gone⟩
    cases (custody_tenure there).symm.trans known
    exact stays

/-! ## What is announced -/

/-- What the step adds to the trace. -/
def added (script : Script α) (step : Step α) : List Event :=
  (script.step step).1.events.drop script.events.length

theorem added_of_undergoes {events : List Event}
    (undergoes : Undergoes index id script.session (script.step step).1.session events) :
    script.added step = events := by
  show (script.step step).1.session.events.drop script.session.events.length = events
  rw [undergoes.events, List.drop_left]

/-- What is announced at the side's address while the step runs, by whatever it is that the step does,
and the request for the removal of the side's listener. -/
def announced (script : Script α) (side : StartedSide) (step : Step α) : List Incident :=
  announcements side.address side.listener script.session.clock (script.added step)

/-- What is announced in a whole run. -/
def announcedIn (script : Script α) (side : StartedSide) : List (Step α) → List Incident
  | [] => []
  | step :: rest => script.announced side step ++ (script.step step).1.announcedIn side rest

/-- The state of the side's watcher, which is listening at the side's address until it is disposed, and
has no feed from then on. -/
structure SideState (allowed : Change → Prop) (script : Script α) (side : StartedSide)
    (state : WatcherState α) : Prop extends Named allowed script side.handle side.book side.index
      side.listener where
  apart : side.book.bids ≠ side.book.asks
  held : script.session.state? side.index = some state
  listens : ListensAt side.address side.index side.listener script.session
  ended : state.watch.disposed = true → state.Ended
  feed : ∃ watcher, script.session.watchers[side.index]? = some watcher ∧ watcher.feed = side.feed

variable {side : StartedSide} {state : WatcherState α}

theorem SideState.isDisposed (current : script.SideState allowed side state) :
    script.session.isDisposed side.index = state.watch.disposed := by
  rw [isDisposed_eq_state?, current.held]
  rfl

/-- The watcher of the side is what its state says. -/
theorem SideState.seat (current : script.SideState allowed side state) :
    ∃ watcher, script.session.watchers[side.index]? = some watcher ∧
      watcher.watch = state.watch ∧ side.feed.bind script.session.liveness.feed? = state.feed := by
  obtain ⟨watcher, found, given⟩ := current.feed
  have held := current.held
  rw [state?_of_found found] at held
  cases held
  exact ⟨watcher, found, rfl, congrArg (Option.bind · _) given.symm⟩

/-- The state goes by what is announced: the watcher hears of all of it, up to its disposal. -/
theorem sideState_step (current : script.SideState allowed side state)
    (queues : step.Queues allowed) :
    Undergoes side.index side.listener script.session (script.step step).1.session
        (script.added step) ∧
      (state.watch.disposed = false →
        upTo .disposal (incidents side.index side.listener (script.added step)) =
          upTo .disposal (script.announced side step)) ∧
      (script.step step).1.SideState allowed side (state.after (script.announced side step)) := by
  obtain ⟨started, disposed, kept⟩ := current.reached.keeps
  obtain ⟨_, events, hears⟩ :=
    hears_step kept current.holding.any ⟨fun _ _ => trivial, step.queues_any⟩
  obtain rfl : script.added step = events := added_of_undergoes hears.toUndergoes
  have heard (live : state.watch.disposed = false) :=
    hears.heard side.address current.listens (current.isDisposed.trans live)
  -- once it is disposed the state stays as it is, and there is nothing to compare
  have same : state.after (incidents side.index side.listener (script.added step)) =
      state.after (script.announced side step) := by
    cases gone : state.watch.disposed with
    | false => exact (state.same_of_upTo (heard gone)).1
    | true => rw [((current.ended gone).after _).1, ((current.ended gone).after _).1]
  refine ⟨hears.toUndergoes, heard, named_step current.toNamed queues, current.apart, ?_,
    hears.listens side.address current.listens, WatcherState.ended_after current.ended, ?_⟩
  · rw [hears.state, current.held, Option.map_some, same]
  · obtain ⟨watcher, found, given⟩ := current.feed
    obtain ⟨after, there, continues⟩ :=
      (evolution_step kept current.reached.aimed step).continues found
    exact ⟨after, there, continues.feed.trans given⟩

/-- A whole run. -/
theorem sideState_run (current : script.SideState allowed side state) {steps : List (Step α)}
    (queues : ∀ step ∈ steps, step.Queues allowed) :
    (∃ added, Undergoes side.index side.listener script.session (script.run steps).session added ∧
      (state.watch.disposed = false → upTo .disposal (incidents side.index side.listener added) =
        upTo .disposal (script.announcedIn side steps))) ∧
      (script.run steps).SideState allowed side (state.after (script.announcedIn side steps)) := by
  induction steps generalizing script state with
  | nil => exact ⟨⟨[], undergoes_refl _, fun _ => rfl⟩, current⟩
  | cons step rest ih =>
    obtain ⟨undergoes, heard, sideState_still⟩ :=
      sideState_step current (queues step (List.mem_cons_self ..))
    obtain ⟨⟨more, goes_on, heard_on⟩, sideState_after⟩ :=
      ih sideState_still fun other member => queues other (List.mem_cons_of_mem _ member)
    refine ⟨⟨_, undergoes.trans goes_on, fun live => ?_⟩, ?_⟩
    · rw [incidents_append]
      refine upTo_append_congr (heard live) fun undisposed => heard_on (state.live_after live ?_)
      rwa [← mem_upTo_iff, ← heard live, mem_upTo_iff]
    · rw [announcedIn, WatcherState.after_append]
      exact sideState_after

/-! ## Starts -/

/-- A live watcher that holds a listener and is listening with it. -/
structure Listening (address : Address) (index id : Nat) (s : Session α) : Prop where
  holds : s.custody.Holds index id
  live : s.isDisposed index = false
  listens : ListensAt address index id s

variable {own : List Nat} {s next : Session α} {request : WatchRequest α} {address : Address}

theorem Listening.holding (listening : Listening address index id s) :
    Holding (fun _ => True) index id s :=
  ⟨s.connection.expects_any, listening.holds⟩

/-- A watcher that was just started. -/
theorem listening_of_started (sound : s.custody.Sound own) (aimed : Aimed s)
    (result : s.watchAccount request = (next, .ok index)) :
    Listening request.address index s.custody.nextListener next := by
  obtain ⟨rfl, welcomed⟩ := (custody_watchAccount result).of_ok
  have resident : next.custody.tenure s.custody.size = some (s.custody.resident request) := by
    rw [welcomed, Custody.welcome_resident]
  have sound_next : next.custody.Sound own := welcomed ▸ sound.welcome request
  refine ⟨sound_next.holds resident rfl nofun, ?_, fun _ => listenersOf_of_started aimed result⟩
  rw [isDisposed_eq, resident]
  rfl

/-- Another start leaves it so. -/
theorem Listening.beside (listening : Listening address index id s) (sound : s.custody.Sound own)
    {other : Nat} (result : s.watchAccount request = (next, .ok other)) :
    Listening address index id next := by
  have holding := listening.holding
  have phases : Phases (.apart (fun _ => True) index id) s next :=
    phases_watchAccount holding.admits result
  obtain ⟨added, hears⟩ := phases.hears holding sound.feeds
  refine ⟨(phases.holding holding).holds, ?_, hears.listens address listening.listens⟩
  have elsewhere : index ≠ s.custody.size := Nat.ne_of_lt holding.lt_size
  obtain ⟨_, welcomed⟩ := (custody_watchAccount result).of_ok
  rw [isDisposed_eq, welcomed, Custody.welcome_tenure, Function.update_of_ne elsewhere,
    ← isDisposed_eq]
  exact listening.live

end Script

namespace BookRequest

def address (request : BookRequest) : SideKind → Address
  | .bids => request.bids
  | .asks => request.asks

end BookRequest

namespace Script

open Session

variable {allowed : Change → Prop} {script : Script α} {request : BookRequest} {handle : Nat}
  {name : String}

/-- One side of a book that a handle names. -/
def side? (script : Script α) (request : BookRequest) (handle : Nat) (kind : SideKind) :
    Option StartedSide :=
  match script.source? handle with
  | some (.book book) =>
    (script.session.watchers[book.side kind]?).bind fun watcher =>
      watcher.listener.map fun listener =>
        ⟨handle, book, kind, request.address kind, listener, watcher.feed⟩
  | _ => none

theorem watchBook_opened
    (success : (script.step (.watchBook request)).2 = .ok (.handle handle name)) :
    ∃ next book, script.session.watchBook request = (next, .ok book) ∧
      handle = script.handles.size ∧
      (script.step (.watchBook request)).1 = (script.withSession next).addHandle (.book book) := by
  simp only [Script.step, Script.watchBook] at success ⊢
  rcases result : script.session.watchBook request with ⟨next, outcome⟩
  rw [result] at success
  cases outcome with
  | error fault => cases success
  | ok book =>
    cases success
    exact ⟨next, book, rfl, rfl, rfl⟩

/-- Both sides of a book that was just started are listening, each with its own watcher. -/
theorem listening_of_watchBook {own : List Nat} {s next : Session α} {book : BookWatchers}
    (sound : s.custody.Sound own) (aimed : Aimed s)
    (result : s.watchBook request = (next, .ok book)) :
    book.bids ≠ book.asks ∧
      ∀ kind, ∃ id, Listening (request.address kind) (book.side kind) id next := by
  obtain ⟨between, first, second⟩ := watchBook_ok result
  obtain ⟨bids, welcomed⟩ := (custody_watchAccount first).of_ok
  obtain ⟨asks, _⟩ := (custody_watchAccount second).of_ok
  have sound_between : between.custody.Sound own := welcomed ▸ sound.welcome _
  have aimed_between : Aimed between := (phases_watchAccount (admits_any s) first).moves.aimed aimed
  have bids_listening := listening_of_started sound aimed first
  refine ⟨?_, fun kind => ?_⟩
  · rw [asks]
    exact Nat.ne_of_lt bids_listening.holding.lt_size
  · cases kind with
    | bids => exact ⟨_, bids_listening.beside sound_between second⟩
    | asks => exact ⟨_, listening_of_started sound_between aimed_between second⟩

/-- The steps of the watchers of a book that was just started lead to no other handle. -/
theorem sole_of_watchBook {started disposed : Nat → Prop} (kept : script.Keeps started disposed)
    {next : Session α} {book : BookWatchers}
    (result : script.session.watchBook request = (next, .ok book)) {index other : Nat}
    (owned : index ∈ (Source.book book).watchers) {source : Source}
    (known : (script.step (.watchBook request)).1.source? other = some source)
    (member : index ∈ source.watchers) : other = script.handles.size := by
  have starts : index ∈ script.starts (.watchBook request) := by
    simpa only [Script.starts, result, Source.watchers] using owned
  rcases source?_cases known with old | ⟨last, _⟩
  · obtain ⟨held, there, _⟩ := kept.seated index (kept.owned source (mem_sources old) index member)
    obtain ⟨watcher, found, _⟩ := tenure_eq_some_iff.1 there
    cases (absent_of_starts kept starts).symm.trans found
  · exact last

/-- A book that starts has two states, one for each side. -/
theorem sideState_of_started (reached : script.Reached)
    (success : (script.step (.watchBook request)).2 = .ok (.handle handle name))
    (kind : SideKind) :
    ∃ side state, (script.step (.watchBook request)).1.side? request handle kind = some side ∧
      (∀ allowed, (script.step (.watchBook request)).1.session.connection.Expects allowed →
        (script.step (.watchBook request)).1.SideState allowed side state) ∧
      state.watch.disposed = false := by
  obtain ⟨started, disposed, kept⟩ := reached.keeps
  obtain ⟨next, book, result, rfl, opened⟩ := watchBook_opened success
  have reached_begun : (script.step (.watchBook request)).1.Reached := reached.run [_]
  have sole := fun other source => @sole_of_watchBook _ _ _ _ _ kept _ _ result (book.side kind) other
    (book.side_mem kind) source
  rw [opened] at reached_begun sole ⊢
  obtain ⟨apart, listening⟩ := listening_of_watchBook kept.sound reached.aimed result
  obtain ⟨id, listening⟩ := listening kind
  obtain ⟨watcher, found, listener⟩ := listening.holding.found
  have known := source?_addHandle_size (script.withSession next) (.book book)
  refine ⟨⟨script.handles.size, book, kind, request.address kind, id, watcher.feed⟩, _, ?_,
    fun allowed expects => ⟨⟨reached_begun, known, book.side_mem kind, sole, expects,
      listening.holds⟩, apart, state?_of_found found, listening.listens, ?_, watcher, found, rfl⟩, ?_⟩
  · have there : ((script.withSession next).addHandle (.book book)).session.watchers[
        book.side kind]? = some watcher := found
    have named : ((script.withSession next).addHandle (.book book)).source?
        script.handles.size = some (.book book) := known
    simp only [side?, named, there, Option.bind_some, listener, Option.map_some]
  · intro gone
    have live := listening.live
    rw [isDisposed_of_found found, gone] at live
    cases live
  · exact (isDisposed_of_found found).symm.trans listening.live

end Script
end SlabBook

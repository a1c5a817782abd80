import SlabBook.Proofs.Lives
import SlabBook.Proofs.WatcherState

/-!
# What a watcher hears of what is announced

Whatever a session does, the state of a watcher changes by its own incidents: the deliveries to the
watcher and the request for the removal of its listener.  Until that request the deliveries are what is
announced at the watcher's address, one for each announcement, whenever and by whomever it is made.

* `undergoes_deliver`, `undergoes_change` — what a delivery and a change make of the state of a watcher;
* `Phase.hears`, `Operates.hears` — a watcher undergoes its incidents and listens until its disposal;
* `listenersOf_of_started` — a watcher that was just started listens.
-/

namespace SlabBook

variable {α : Type}

namespace Change

/-- The version that is announced at the address. -/
def announced? (address : Address) : Change → Option Stored
  | .announce there version => if there = address then some version else none
  | .publish there version => if there = address then some version else none
  | _ => none

/-- The time after the change. -/
def clock (now : Int) : Change → Int
  | .advance elapsed => Clock.advance now elapsed
  | _ => now

/-- Nothing is announced at the address, and the clock stands still. -/
structure Silent (address : Address) (change : Change) : Prop where
  unannounced : change.announced? address = none
  still : ∀ now, change.clock now = now

end Change

namespace Event

/-- What the event is to a watcher and its listener. -/
def incident? (index id : Nat) : Event → Option Incident
  | .delivered time listener account =>
    if listener.sink = .watcher index then some (.heard time account) else none
  | .unsubscribed other => if other = id then some .disposal else none
  | _ => none

/-- An announcement at the address at this time, or the request for the removal of the listener. -/
def announcement? (address : Address) (id : Nat) (now : Int) : Event → Option Incident
  | .changed change =>
    (change.announced? address).map fun version => .heard now (version.account address)
  | .unsubscribed other => if other = id then some .disposal else none
  | _ => none

/-- The time after the event. -/
def clock (now : Int) : Event → Int
  | .changed change => change.clock now
  | _ => now

/-- The event is nothing to the watcher. -/
structure Unrelated (index id : Nat) (event : Event) : Prop where
  incident : event.incident? index id = none
  announcement : ∀ address now, event.announcement? address id now = none
  unchanged : ∀ change, event ≠ .changed change

theorem Unrelated.clock {event : Event} {index id : Nat} (unrelated : event.Unrelated index id)
    (now : Int) : event.clock now = now := by
  cases event with
  | changed change => exact absurd rfl (unrelated.unchanged change)
  | _ => rfl

theorem unrelated_of_plain {event : Event} (plain : event.Plain) (index id : Nat) :
    event.Unrelated index id := by
  cases event with
  | changed change => exact plain.elim
  | delivered time listener account => exact plain.elim
  | unsubscribed other => exact plain.elim
  | _ => exact ⟨rfl, fun _ _ => rfl, nofun⟩

theorem unrelated_returned (address : Address) (found : Option Account) (index id : Nat) :
    (returned address found).Unrelated index id :=
  ⟨rfl, fun _ _ => rfl, nofun⟩

theorem unrelated_attached (listener : Listener) (index id : Nat) :
    (attached listener).Unrelated index id :=
  ⟨rfl, fun _ _ => rfl, nofun⟩

theorem unrelated_unsubscribed {other id : Nat} (different : other ≠ id) (index : Nat) :
    (unsubscribed other).Unrelated index id :=
  ⟨if_neg different, fun _ _ => if_neg different, nofun⟩

end Event

namespace Session

variable {allowed : Change → Prop} {index id : Nat} {own : List Nat} {s next between : Session α}
  {added more : List Event} {address : Address} {now : Int} {watcher : Watcher α}

/-- What happens to a watcher in these events. -/
def incidents (index id : Nat) (events : List Event) : List Incident :=
  events.filterMap (Event.incident? index id)

/-- What is announced at the address in these events, from this time on, and the requests for the
removal of the listener. -/
def announcements (address : Address) (id : Nat) (now : Int) : List Event → List Incident
  | [] => []
  | event :: rest =>
    (event.announcement? address id now).toList ++ announcements address id (event.clock now) rest

/-- The time after the events. -/
def clockAfter (now : Int) (events : List Event) : Int := events.foldl Event.clock now

/-- The state of a watcher. -/
def state? (s : Session α) (index : Nat) : Option (WatcherState α) :=
  (s.watchers[index]?).map fun watcher =>
    ⟨watcher.request, watcher.watch, watcher.feed.bind s.liveness.feed?⟩

theorem incidents_append (earlier later : List Event) :
    incidents index id (earlier ++ later) = incidents index id earlier ++ incidents index id later :=
  List.filterMap_append

theorem announcements_append (now : Int) (earlier later : List Event) :
    announcements address id now (earlier ++ later) =
      announcements address id now earlier ++
        announcements address id (clockAfter now earlier) later := by
  induction earlier generalizing now with
  | nil => rfl
  | cons event rest ih =>
    rw [List.cons_append, announcements, announcements, ih, List.append_assoc]
    rfl

theorem clockAfter_append (now : Int) (earlier later : List Event) :
    clockAfter now (earlier ++ later) = clockAfter (clockAfter now earlier) later :=
  List.foldl_append

theorem incidents_eq_nil (unrelated : ∀ event ∈ added, event.Unrelated index id) :
    incidents index id added = [] :=
  List.filterMap_eq_nil_iff.2 fun event member => (unrelated event member).incident

theorem clockAfter_of_unrelated (unrelated : ∀ event ∈ added, event.Unrelated index id) (now : Int) :
    clockAfter now added = now := by
  induction added with
  | nil => rfl
  | cons event rest ih =>
    obtain ⟨first, others⟩ := List.forall_mem_cons.1 unrelated
    rw [clockAfter, List.foldl_cons, first.clock]
    exact ih others

theorem announcements_eq_nil (unrelated : ∀ event ∈ added, event.Unrelated index id)
    (address : Address) (now : Int) : announcements address id now added = [] := by
  induction added with
  | nil => rfl
  | cons event rest ih =>
    obtain ⟨first, others⟩ := List.forall_mem_cons.1 unrelated
    rw [announcements, first.announcement, first.clock, ih others]
    rfl

/-- Where nothing is announced there are no incidents but disposals, and the clock stands still. -/
theorem announcements_of_silent (silent : ∀ change, .changed change ∈ added → change.Silent address)
    (now : Int) : (∀ incident ∈ announcements address id now added, incident = .disposal) ∧
      clockAfter now added = now := by
  induction added with
  | nil => exact ⟨nofun, rfl⟩
  | cons event rest ih =>
    obtain ⟨only, still⟩ := ih fun change later => silent change (List.mem_cons_of_mem _ later)
    have first : event.clock now = now ∧
        ∀ incident, event.announcement? address id now = some incident → incident = .disposal := by
      cases event with
      | changed change =>
        obtain ⟨unannounced, still⟩ := silent change (List.mem_cons_self ..)
        refine ⟨still now, fun incident announced => ?_⟩
        simp [Event.announcement?, unannounced] at announced
      | unsubscribed other =>
        refine ⟨rfl, fun incident asked => ?_⟩
        exact (Option.some.inj (Option.ite_none_right_eq_some.1 asked).2).symm
      | _ => exact ⟨rfl, nofun⟩
    refine ⟨fun incident member => ?_, ?_⟩
    · rw [announcements, first.1] at member
      rcases List.mem_append.1 member with now | later
      · exact first.2 incident (Option.mem_toList.1 now)
      · exact only incident later
    · rw [clockAfter, List.foldl_cons, first.1]
      exact still

theorem isDisposed_eq_state? (s : Session α) (index : Nat) :
    s.isDisposed index = ((s.state? index).map (·.watch.disposed)).getD false := by
  simp only [isDisposed, state?, Option.map_map]
  rfl

/-- These events are added, and the state of the watcher has gone through its incidents in them. -/
structure Undergoes (index id : Nat) (s next : Session α) (added : List Event) : Prop where
  events : next.events = s.events ++ added
  state : next.state? index = (s.state? index).map fun state =>
    state.after (incidents index id added)
  clock : next.clock = clockAfter s.clock added

theorem undergoes_refl (s : Session α) : Undergoes index id s s [] :=
  ⟨(List.append_nil _).symm, Option.map_id'.symm, rfl⟩

theorem Undergoes.trans (first : Undergoes index id s between added)
    (second : Undergoes index id between next more) :
    Undergoes index id s next (added ++ more) where
  events := by rw [second.events, first.events, List.append_assoc]
  state := by
    rw [second.state, first.state, Option.map_map, incidents_append]
    exact Option.map_congr fun state _ => (state.after_append _ _).symm
  clock := by rw [second.clock, first.clock, clockAfter_append]

theorem Undergoes.isDisposed (undergoes : Undergoes index id s next added)
    (there : index < s.watchers.size) :
    next.isDisposed index = true ↔
      s.isDisposed index = true ∨ .disposal ∈ incidents index id added := by
  obtain ⟨state, found⟩ : ∃ state, s.state? index = some state :=
    ⟨_, congrArg _ (Array.getElem?_eq_getElem there)⟩
  rw [isDisposed_eq_state?, isDisposed_eq_state?, undergoes.state, found]
  exact state.disposed_after _

theorem Undergoes.live (undergoes : Undergoes index id s next added)
    (there : index < s.watchers.size) (live : s.isDisposed index = false)
    (undisposed : .disposal ∉ incidents index id added) : next.isDisposed index = false := by
  refine Bool.eq_false_iff.2 fun gone => ?_
  rcases (undergoes.isDisposed there).1 gone with before | disposal
  · rw [live] at before
    cases before
  · exact undisposed disposal

/-- Nothing happens to the watcher. -/
theorem undergoes_of_unrelated (events : next.events = s.events ++ added)
    (unrelated : ∀ event ∈ added, event.Unrelated index id)
    (state : next.state? index = s.state? index) (clock : next.clock = s.clock) :
    Undergoes index id s next added where
  events := events
  state := by
    rw [incidents_eq_nil unrelated, state]
    exact Option.map_id'.symm
  clock := by rw [clock, clockAfter_of_unrelated unrelated]

/-- Without an event nothing happens to a watcher that stands as before. -/
theorem undergoes_of_same (events : next.events = s.events)
    (state : next.state? index = s.state? index) (clock : next.clock = s.clock) :
    Undergoes index id s next [] :=
  undergoes_of_unrelated (by rw [events, List.append_nil]) (List.forall_mem_nil _) state clock

theorem state?_congr (watchers : next.watchers[index]? = s.watchers[index]?)
    (liveness : ∀ watcher feed, s.watchers[index]? = some watcher → watcher.feed = some feed →
      next.liveness.feed? feed = s.liveness.feed? feed) : next.state? index = s.state? index := by
  rw [state?, state?, watchers]
  refine Option.map_congr fun watcher found => ?_
  congr 1
  exact Option.bind_congr fun feed taken => liveness watcher feed found taken

/-- What a watcher hears of, among what happens to it. -/
theorem filterMap_account?_incidents (events : List Event) :
    (incidents index id events).filterMap Incident.account? = heardBy index events := by
  rw [incidents, heardBy, List.filterMap_filterMap]
  congr 1
  funext event
  cases event with
  | delivered time listener account =>
    by_cases sink : listener.sink = .watcher index <;>
      simp [Event.incident?, Event.heard?, sink, Incident.account?]
  | unsubscribed other =>
    by_cases same : other = id <;> simp [Event.incident?, Event.heard?, same, Incident.account?]
  | _ => rfl

/-- The watcher has gone through what its state made of its incidents. -/
theorem Undergoes.passage (undergoes : Undergoes index id s next added) {state : WatcherState α}
    (found : s.watchers[index]? = some watcher) (held : s.state? index = some state) :
    ∃ after, Passage index s next watcher after
      (state.occurrences (incidents index id added)) := by
  have gone := undergoes.state
  rw [held, Option.map_some] at gone
  obtain ⟨after, there, same⟩ := Option.map_eq_some_iff.1 gone
  have state_before :
      ⟨watcher.request, watcher.watch, watcher.feed.bind s.liveness.feed?⟩ = state :=
    Option.some.inj ((congrArg _ found).symm.trans held)
  have request : state.request = watcher.request := state_before ▸ rfl
  have watch : state.watch = watcher.watch := state_before ▸ rfl
  have course := state.course (incidents index id added)
  rw [← same, request, watch] at course
  refine ⟨after, there, ?_, course, ⟨added, undergoes.events.symm⟩, ?_, ?_⟩
  · rw [← request, ← state.request_after (incidents index id added), ← same]
  · rw [undergoes.events, heardBy_append, ← @filterMap_account?_incidents index id added,
      WatcherState.filterMap_notice?_occurrences]
  · rw [WatcherState.filterMap_reading?_occurrences]
    nofun

/-! ## Deliveries -/

theorem state?_of_found (found : s.watchers[index]? = some watcher) :
    s.state? index =
      some ⟨watcher.request, watcher.watch, watcher.feed.bind s.liveness.feed?⟩ :=
  congrArg (Option.map _) found

theorem state?_setWatcher_self (found : s.watchers[index]? = some watcher) (changed : Watcher α) :
    (s.setWatcher index changed).state? index =
      some ⟨changed.request, changed.watch, changed.feed.bind s.liveness.feed?⟩ := by
  have set := getElem?_setWatcher s index index changed
  rw [if_pos rfl, if_pos (lt_size_of_found found)] at set
  exact state?_of_found set

theorem state?_setWatcher_of_ne {position : Nat} (elsewhere : position ≠ index)
    (changed : Watcher α) : (s.setWatcher position changed).state? index = s.state? index :=
  state?_congr (by rw [getElem?_setWatcher, if_neg elsewhere]) fun _ _ _ _ => rfl

/-- A watcher is set in nothing that belongs to its state. -/
theorem state?_setWatcher_of_same {position : Nat} {there changed : Watcher α}
    (known : s.watchers[position]? = some there) (request : changed.request = there.request)
    (watch : changed.watch = there.watch) (feed : changed.feed = there.feed) :
    (s.setWatcher position changed).state? index = s.state? index := by
  by_cases same : position = index
  · subst same
    rw [state?_setWatcher_self known, state?_of_found known, request, watch, feed]
  · exact state?_setWatcher_of_ne same _

theorem feed?_pingWatcher (sound : s.FeedsSound own) {position : Nat} {there : Watcher α}
    (found : s.watchers[index]? = some watcher) (known : s.watchers[position]? = some there)
    (elsewhere : position ≠ index) {feed : Nat} (taken : watcher.feed = some feed) :
    (s.pingWatcher there).liveness.feed? feed = s.liveness.feed? feed := by
  unfold pingWatcher
  split
  · rfl
  · cases other : there.feed with
    | none => rfl
    | some pinged =>
      refine Liveness.feed?_call_of_ne (.ping pinged s.clock) ?_
      rintro rfl
      exact elsewhere (sound.index_eq found taken known other)

theorem feed?_ping_self (registry : Liveness) (feed : Nat) (now : Int) :
    (registry.ping feed now).feed? feed =
      (registry.feed? feed).map fun found => { found with lastActiveAt := some now } := by
  rw [Liveness.feed?_ping]
  exact Option.map_congr fun found there => if_pos (Liveness.id_of_feed? there)

/-- What a watcher hears and its feed's ping are one incident of its state. -/
theorem state?_told (found : s.watchers[index]? = some watcher) (account : Account) :
    ((s.pingWatcher watcher).setWatcher index { watcher with
      watch := (watcher.watch.notify watcher.request.format.decode s.clock account).1 }).state?
        index = (s.state? index).map (WatcherState.step · (.heard s.clock account)) := by
  have there : (s.pingWatcher watcher).watchers[index]? = some watcher := by
    rw [pingWatcher_watchers, found]
  rw [state?_setWatcher_self there, state?_of_found found, Option.map_some]
  congr 1
  show WatcherState.mk _ _ (watcher.feed.bind (s.pingWatcher watcher).liveness.feed?) =
    WatcherState.mk _ _ _
  congr 1
  unfold pingWatcher
  split
  · rfl
  · cases watcher.feed with
    | none => rfl
    | some feed => exact feed?_ping_self s.liveness feed s.clock

theorem state?_deliver (sound : s.FeedsSound own) (version : Stored) (listener : Listener) :
    (s.deliver version listener).state? index = (s.state? index).map fun state => state.after
      (if listener.sink = .watcher index then
        [.heard s.clock (version.account listener.address)] else []) := by
  rcases s.deliver_cases version listener with
    ⟨position, there, sink, known⟩ | ⟨nobody, recorded⟩
  · let told := there.watch.notify there.request.format.decode s.clock
      (version.account listener.address)
    have whole : (s.deliver version listener).state? index =
        ((s.pingWatcher there).setWatcher position { there with watch := told.1 }).state? index := by
      rw [deliver_eq sink known]
      rfl
    rw [whole, sink]
    by_cases same : position = index
    · subst same
      rw [if_pos rfl]
      exact state?_told known _
    · rw [if_neg fun equal => same (by cases equal; rfl)]
      refine (state?_congr ?_ fun watcher feed found taken => ?_).trans Option.map_id'.symm
      · rw [getElem?_setWatcher, if_neg same, pingWatcher_watchers]
      · exact feed?_pingWatcher sound found known same taken
  · rw [recorded]
    by_cases sink : listener.sink = .watcher index
    · have absent : s.state? index = none := congrArg (Option.map _) (nobody index sink)
      rw [absent, Option.map_none]
      exact absent
    · rw [if_neg sink]
      exact Option.map_id'.symm

theorem incidents_delivered {said : List Event}
    (unrelated : ∀ event ∈ said, event.Unrelated index id) (time : Int) (listener : Listener)
    (account : Account) : incidents index id (.delivered time listener account :: said) =
      if listener.sink = .watcher index then [.heard time account] else [] := by
  have rest := incidents_eq_nil unrelated
  unfold incidents at rest ⊢
  split
  · rename_i sink
    have heard : (Event.delivered time listener account).incident? index id =
        some (.heard time account) := if_pos sink
    rw [List.filterMap_cons_some heard, rest]
  · rename_i elsewhere
    have unheard : (Event.delivered time listener account).incident? index id = none :=
      if_neg elsewhere
    rw [List.filterMap_cons_none unheard, rest]

/-- A delivery is an incident for the watcher that it is for, and for nobody else. -/
theorem undergoes_deliver (sound : s.FeedsSound own) (version : Stored) (listener : Listener) :
    ∃ said, (∀ event ∈ said, event.Plain) ∧
      Undergoes index id s (s.deliver version listener)
        (.delivered s.clock listener (version.account listener.address) :: said) := by
  obtain ⟨said, plain, grown⟩ := s.deliver_events version listener
  have unrelated : ∀ event ∈ said, event.Unrelated index id :=
    fun event member => Event.unrelated_of_plain (plain event member) index id
  refine ⟨said, plain, grown, ?_, ?_⟩
  · rw [incidents_delivered unrelated]
    exact state?_deliver sound version listener
  · exact (deliver_clock version listener).trans (clockAfter_of_unrelated unrelated _).symm

/-- Deliveries announce nothing: the announcement was made before them. -/
structure Deliveries (added : List Event) : Prop where
  unannounced : ∀ address id now, announcements address id now added = []
  still : ∀ now, clockAfter now added = now
  unchanged : ∀ change, .changed change ∉ added

theorem deliveries_cons {said : List Event} (plain : ∀ event ∈ said, event.Plain)
    (deliveries : Deliveries added) (time : Int) (listener : Listener) (account : Account) :
    Deliveries ((.delivered time listener account :: said) ++ added) where
  unannounced := by
    intro address id now
    have unrelated : ∀ event ∈ said, event.Unrelated 0 id :=
      fun event member => Event.unrelated_of_plain (plain event member) 0 id
    rw [announcements_append, deliveries.unannounced, List.append_nil]
    exact announcements_eq_nil unrelated address now
  still := by
    intro now
    have unrelated : ∀ event ∈ said, event.Unrelated 0 0 :=
      fun event member => Event.unrelated_of_plain (plain event member) 0 0
    rw [clockAfter_append, deliveries.still]
    exact clockAfter_of_unrelated unrelated now
  unchanged := by
    intro change member
    rcases List.mem_append.1 member with old | later
    · rcases List.mem_cons.1 old with same | noted
      · cases same
      · exact plain _ noted
    · exact deliveries.unchanged change later

/-- A row of deliveries, each of which is an incident if it is for the watcher. -/
theorem undergoes_deliveries (sound : s.FeedsSound own) (version : Stored)
    (listeners : List Listener) :
    ∃ added, Deliveries added ∧
      incidents index id added = (listeners.filter fun listener =>
        listener.sink = .watcher index).map (fun listener =>
          .heard s.clock (version.account listener.address)) ∧
      Undergoes index id s (listeners.foldl (fun s listener => s.deliver version listener) s)
        added := by
  induction listeners generalizing s with
  | nil => exact ⟨[], ⟨fun _ _ _ => rfl, fun _ => rfl, nofun⟩, rfl, undergoes_refl s⟩
  | cons listener rest ih =>
    obtain ⟨said, plain, first⟩ := @undergoes_deliver _ index id _ _ sound version listener
    have sound_still := feedsSound_of_custody sound (custody_deliver version listener)
    obtain ⟨added, deliveries, heard, second⟩ := ih sound_still
    refine ⟨_, deliveries_cons plain deliveries .., ?_, first.trans second⟩
    rw [incidents_append, incidents_delivered fun event member =>
      Event.unrelated_of_plain (plain event member) index id, heard, deliver_clock,
      List.filter_cons]
    split <;> simp_all

/-! ## Changes -/

/-- The listeners that aim at a watcher. -/
def listenersOf (s : Session α) (index : Nat) : List Listener :=
  s.connection.listeners.filter fun listener => listener.sink = .watcher index

/-- Until it is disposed the watcher has the one listener, at the address. -/
def ListensAt (address : Address) (index id : Nat) (s : Session α) : Prop :=
  s.isDisposed index = false → s.listenersOf index = [⟨id, address, .watcher index⟩]

theorem audience_listenersOf (s : Session α) (index : Nat) (address : Address) :
    ((s.connection.audience address).filter fun listener => listener.sink = .watcher index) =
      (s.listenersOf index).filter fun listener => listener.address = address :=
  List.filter_comm _ _ _

/-- An announcement is heard by the watchers of its address. -/
theorem undergoes_announce (sound : s.FeedsSound own) (there : Address) (version : Stored) :
    ∃ added, Deliveries added ∧
      (∀ address, s.listenersOf index = [⟨id, address, .watcher index⟩] →
        incidents index id added =
          if there = address then [.heard s.clock (version.account address)] else []) ∧
      Undergoes index id s (s.announce there version) added := by
  obtain ⟨added, deliveries, heard, undergoes⟩ :=
    @undergoes_deliveries _ index id _ _ sound version (s.connection.audience there)
  refine ⟨added, deliveries, fun address listens => ?_, undergoes⟩
  rw [heard, audience_listenersOf, listens, List.filter_singleton]
  by_cases here : there = address
  · simp [here]
  · simp [here, Ne.symm here]

/-- A change writes to the table or moves the clock, and then it may be announced at one address. -/
theorem change_cases (s : Session α) (change : Change) :
    let kept := (s.record (.changed change)).keep change
    ((∀ address, change.announced? address = none) ∧ s.change change = kept) ∨
      ∃ there version,
        (∀ address, change.announced? address = if there = address then some version else none) ∧
          s.change change = kept.announce there version := by
  cases change with
  | store there version => exact .inl ⟨fun _ => rfl, rfl⟩
  | announce there version => exact .inr ⟨there, version, fun _ => rfl, rfl⟩
  | publish there version => exact .inr ⟨there, version, fun _ => rfl, rfl⟩
  | remove there => exact .inl ⟨fun _ => rfl, rfl⟩
  | advance elapsed => exact .inl ⟨fun _ => rfl, rfl⟩

theorem announcements_changed (change : Change) :
    announcements address id now [.changed change] =
      (change.announced? address).toList.map fun version =>
        .heard now (version.account address) := by
  cases announced : change.announced? address <;>
    simp [announcements, Event.announcement?, announced]

/-- A change is heard by a watcher that listens, if it is announced at its address. -/
theorem undergoes_change (sound : s.FeedsSound own) (change : Change) :
    ∃ added, Undergoes index id s (s.change change) added ∧
      (∀ address, announcements address id s.clock added =
        (change.announced? address).toList.map fun version =>
          .heard s.clock (version.account address)) ∧
      (∀ made, .changed made ∈ added → made = change) ∧
      ∀ address, s.listenersOf index = [⟨id, address, .watcher index⟩] →
        incidents index id added = (change.announced? address).toList.map fun version =>
          .heard s.clock (version.account address) := by
  have kept : Undergoes index id s ((s.record (.changed change)).keep change) [.changed change] := by
    refine ⟨events_changed s change, ?_, ?_⟩
    · cases change <;> exact Option.map_id'.symm
    · cases change <;> rfl
  have only : ∀ made, Event.changed made ∈ [Event.changed change] → made = change := by simp
  rcases s.change_cases change with ⟨silent, made⟩ | ⟨there, version, announced, made⟩
  · refine ⟨_, made ▸ kept, fun address => announcements_changed change, only,
      fun address _ => ?_⟩
    rw [silent]
    rfl
  · have still : ((s.record (.changed change)).keep change).clock = s.clock := by
      cases change with
      | advance elapsed => simpa [Change.announced?] using announced there
      | _ => rfl
    have listeners : ((s.record (.changed change)).keep change).listenersOf index =
        s.listenersOf index := by
      unfold listenersOf
      rw [keep_listeners]
      rfl
    have sound_still : ((s.record (.changed change)).keep change).FeedsSound own :=
      feedsSound_of_custody sound ((custody_keep change).trans (custody_record ⟨rfl, rfl⟩))
    obtain ⟨added, deliveries, heard, undergoes⟩ :=
      @undergoes_announce _ index id _ _ sound_still there version
    refine ⟨_, made ▸ kept.trans undergoes, fun address => ?_, fun other member => ?_,
      fun address listens => ?_⟩
    · rw [announcements_append, deliveries.unannounced, List.append_nil, announcements_changed]
    · rcases List.mem_append.1 member with first | later
      · exact only other first
      · exact absurd later (deliveries.unchanged other)
    · rw [incidents_append, heard address (listeners.trans listens), still, announced]
      by_cases here : there = address <;> simp [here, incidents, Event.incident?]

/-! ## All that is announced is heard -/

/-- The watcher has undergone its incidents.  If it listens, these are what is announced at its
address, up to the disposal, and it goes on listening.  All changes meanwhile are of this kind. -/
structure Hears (allowed : Change → Prop) (index id : Nat) (s next : Session α) (added : List Event) :
    Prop extends Undergoes index id s next added where
  heard : ∀ address, ListensAt address index id s → s.isDisposed index = false →
    upTo .disposal (incidents index id added) =
      upTo .disposal (announcements address id s.clock added)
  listens : ∀ address, ListensAt address index id s → ListensAt address index id next
  happens : ∀ change, .changed change ∈ added → allowed change

theorem hears_refl (s : Session α) : Hears allowed index id s s [] :=
  ⟨undergoes_refl s, fun _ _ _ => rfl, fun _ listens => listens, nofun⟩

theorem Hears.trans (first : Hears allowed index id s between added)
    (second : Hears allowed index id between next more) (there : index < s.watchers.size) :
    Hears allowed index id s next (added ++ more) where
  toUndergoes := first.toUndergoes.trans second.toUndergoes
  heard := by
    intro address listens live
    -- what comes after a disposal is cut off, so that the second part counts only if the watcher
    -- still listens when it begins
    rw [incidents_append, announcements_append, ← first.clock]
    refine upTo_append_congr (first.heard address listens live) fun undisposed => ?_
    exact second.heard address (first.listens address listens)
      (first.live there live undisposed)
  listens address listens := second.listens address (first.listens address listens)
  happens change member :=
    (List.mem_append.1 member).elim (first.happens change) (second.happens change)

theorem listensAt_of_listeners (there : index < s.watchers.size)
    (undergoes : Undergoes index id s next added)
    (same : next.connection.listeners = s.connection.listeners)
    (listens : ListensAt address index id s) : ListensAt address index id next := by
  intro live
  unfold listenersOf
  rw [same]
  refine listens (Bool.eq_false_iff.2 fun gone => ?_)
  rw [(undergoes.isDisposed there).2 (.inl gone)] at live
  cases live

/-- Nothing happens to the watcher. -/
theorem hears_of_unrelated (undergoes : Undergoes index id s next added)
    (unrelated : ∀ event ∈ added, event.Unrelated index id)
    (listens : ∀ address, ListensAt address index id s → ListensAt address index id next) :
    Hears allowed index id s next added := by
  refine ⟨undergoes, fun address _ _ => ?_, listens, fun change member => ?_⟩
  · rw [incidents_eq_nil unrelated, announcements_eq_nil unrelated]
  · exact absurd rfl ((unrelated _ member).unchanged change)

/-- Nothing happens to the watcher, and the listeners are as they were. -/
theorem hears_of_listeners (there : index < s.watchers.size)
    (undergoes : Undergoes index id s next added)
    (unrelated : ∀ event ∈ added, event.Unrelated index id)
    (same : next.connection.listeners = s.connection.listeners) :
    Hears allowed index id s next added :=
  hears_of_unrelated undergoes unrelated fun _ => listensAt_of_listeners there undergoes same

theorem hears_of_same (there : index < s.watchers.size) (undergoes : Undergoes index id s next [])
    (same : next.connection.listeners = s.connection.listeners) : Hears allowed index id s next [] :=
  hears_of_listeners there undergoes (List.forall_mem_nil _) same

/-- A listener that is detached is not that of a live watcher. -/
theorem listensAt_detach (other : Nat) (free : other = id → s.isDisposed index = true)
    (listens : ListensAt address index id s) :
    ListensAt address index id { s with connection := s.connection.detach other } := by
  intro live
  have different : id ≠ other := by
    rintro rfl
    have gone : s.isDisposed index = true := free rfl
    exact absurd live (ne_of_eq_of_ne gone nofun)
  have listening := listens live
  unfold listenersOf at listening ⊢
  rw [Connection.detach, List.filter_comm, listening, List.filter_singleton]
  simp [different]

theorem hears_change (holding : Holding allowed index id s) (sound : s.FeedsSound own)
    {change : Change} (happens : allowed change) :
    ∃ added, Hears allowed index id s (s.change change) added := by
  obtain ⟨added, undergoes, announced, only, heard⟩ := @undergoes_change _ index id _ _ sound change
  refine ⟨added, undergoes, fun address listens live => ?_,
    fun address => listensAt_of_listeners holding.lt_size undergoes (change_listeners change),
    fun made member => only made member ▸ happens⟩
  rw [announced, heard address (listens live)]

/-! ## Disposals -/

theorem retire_clock (position : Nat) : (s.retire position).clock = s.clock := by
  unfold retire
  split
  · rfl
  · rename_i there _
    cases there.feed <;> rfl

/-- That a disposal is noted counts for nothing else. -/
theorem setDisposal_frame (s : Session α) (position : Nat) (disposal : Disposal) :
    (s.setDisposal position disposal).events = s.events ∧
      (s.setDisposal position disposal).clock = s.clock ∧
      (s.setDisposal position disposal).state? index = s.state? index := by
  unfold setDisposal
  split
  · exact ⟨rfl, rfl, rfl⟩
  · rename_i there known
    exact ⟨rfl, rfl, state?_setWatcher_of_same known rfl rfl rfl⟩

theorem state?_retire_of_ne (sound : s.FeedsSound own) {position : Nat}
    (elsewhere : position ≠ index) : (s.retire position).state? index = s.state? index := by
  cases known : s.watchers[position]? with
  | none => simp only [retire, known]
  | some other =>
    refine state?_congr ?_ fun watcher feed found taken => ?_
    · rw [retire_watchers known, getElem?_setWatcher, if_neg elsewhere]
    · rw [retire_liveness known]
      cases given : other.feed with
      | none => rfl
      | some dropped =>
        refine Liveness.feed?_call_of_ne (.drop dropped) ?_
        rintro rfl
        exact elsewhere (sound.index_eq found taken known given)

/-- A watcher that retires ends its state. -/
theorem state?_retire (s : Session α) (index : Nat) :
    (s.retire index).state? index = (s.state? index).map (WatcherState.step · .disposal) := by
  cases found : s.watchers[index]? with
  | none => simp only [retire, state?, found, Option.map_none]
  | some watcher =>
    rw [state?_of_found (retire_found found), state?_of_found found, Option.map_some]
    congr 1
    show WatcherState.mk _ _ (watcher.feed.bind (s.retire index).liveness.feed?) =
      WatcherState.mk _ _ none
    congr 1
    rw [retire_liveness found]
    cases watcher.feed with
    | none => rfl
    | some feed => exact (Liveness.feed?_drop feed feed).trans (if_pos rfl)

theorem undergoes_retire_of_ne (sound : s.FeedsSound own) {position : Nat}
    (elsewhere : position ≠ index) : Undergoes index id s (s.retire position) [] :=
  undergoes_of_same (retire_events s position) (state?_retire_of_ne sound elsewhere)
    (retire_clock position)

/-- The watcher hears nothing any more once it is disposed itself. -/
theorem Left.hears_self (left : Left s index next) (holding : Holding allowed index id s) :
    ∃ added, Hears allowed index id s next added := by
  obtain ⟨watcher, found, listener, _⟩ := holding.found
  cases left with
  | nothing => exact ⟨[], hears_refl s⟩
  | unheard there none =>
    cases found.symm.trans there
    cases listener.symm.trans none
  | @asked there other known taken first =>
    cases found.symm.trans known
    obtain rfl : id = other := Option.some.inj (listener.symm.trans taken)
    obtain ⟨events, clock, state⟩ := @setDisposal_frame _ index (s.retire index) index
      (.pending (s.connection.nextPlan .unsubscribe))
    have asked : incidents index id [Event.unsubscribed id] = [.disposal] := by
      simp [incidents, Event.incident?]
    have undergoes : Undergoes index id s (((s.retire index).setDisposal index
        (.pending (s.connection.nextPlan .unsubscribe))).record (.unsubscribed id))
        [.unsubscribed id] := by
      refine ⟨by rw [events_record, events, retire_events], ?_, clock.trans (retire_clock index)⟩
      rw [asked]
      exact state.trans (state?_retire s index)
    have gone := (undergoes.isDisposed holding.lt_size).2
      (.inr (asked ▸ List.mem_singleton_self _))
    refine ⟨_, undergoes, fun address _ _ => ?_, fun address _ live => ?_, by simp⟩
    · simp [asked, announcements, Event.announcement?]
    · rw [gone] at live
      cases live

/-- The disposal of another watcher. -/
theorem Left.hears_of_ne {position : Nat} (left : Left s position next)
    (elsewhere : position ≠ index) (holding : Holding allowed index id s)
    (sound : s.FeedsSound own) : ∃ added, Hears allowed index id s next added := by
  have retired (disposal : Disposal) :
      Undergoes index id s ((s.retire position).setDisposal position disposal) [] := by
    obtain ⟨events, clock, state⟩ :=
      @setDisposal_frame _ index (s.retire position) position disposal
    exact (undergoes_retire_of_ne sound elsewhere).trans (undergoes_of_same events state clock)
  have listeners := congrArg Connection.listeners left.connection
  cases left with
  | nothing => exact ⟨[], hears_refl s⟩
  | unheard known none first =>
    exact ⟨[], hears_of_same holding.lt_size (retired _) listeners⟩
  | @asked there other known taken first =>
    have different : other ≠ id := by
      rintro rfl
      exact elsewhere (holding.holds.sole position _ (custody_tenure known) taken)
    have unrelated : ∀ event ∈ [Event.unsubscribed other], event.Unrelated index id :=
      List.forall_mem_singleton.2 (Event.unrelated_unsubscribed different index)
    exact ⟨_, hears_of_listeners holding.lt_size ((retired _).trans
      (undergoes_of_unrelated (events_record _ _) unrelated rfl rfl)) unrelated listeners⟩

/-- The answer to a removal is nothing to a watcher: if it was its own, it was disposed before. -/
theorem Finished.hears {position : Nat} (finished : Finished s position next)
    (holding : Holding allowed index id s) : ∃ added, Hears allowed index id s next added := by
  have there := holding.lt_size
  cases finished with
  | nothing => exact ⟨[], hears_refl s⟩
  | failed known due outcome =>
    obtain ⟨events, clock, state⟩ := @setDisposal_frame _ index s position _
    exact ⟨[], hears_of_same there (undergoes_of_same events state clock)
      (congrArg Connection.listeners (setDisposal_connection position _))⟩
  | @removed removed watcher other plan known taken due outcome removal =>
    have free : other = id → s.isDisposed index = true := by
      rintro rfl
      obtain rfl := holding.holds.sole position _ (custody_tenure known) taken
      obtain ⟨mine, found, _, gone⟩ := holding.found
      cases known.symm.trans found
      rw [isDisposed_of_found known]
      exact gone (by rw [due]; rfl)
    have removing : Hears allowed index id s removed [] := by
      rcases removal with rfl | rfl
      · exact hears_refl _
      · exact hears_of_unrelated (undergoes_of_same rfl rfl rfl) (List.forall_mem_nil _)
          fun address => listensAt_detach other free
    obtain ⟨events, clock, state⟩ := @setDisposal_frame _ index removed position (.settled (.ok ()))
    have size : removed.watchers.size = s.watchers.size := by
      rcases removal with rfl | rfl <;> rfl
    have plain : ∀ event ∈ watcher.request.options.noted
        (.disposed watcher.request.name watcher.request.address), event.Unrelated index id :=
      fun event member => Event.unrelated_of_plain (plain_of_mem_noted member) index id
    refine ⟨_, removing.trans (hears_of_listeners (size ▸ there)
      (undergoes_of_unrelated ?_ plain ?_ ?_) plain ?_) there⟩
    · rw [log_eq, events_recordAll, events]
    · rw [log_eq]
      exact state
    · rw [log_eq]
      exact clock
    · rw [log_eq]
      exact congrArg Connection.listeners (setDisposal_connection position _)

/-! ## Phases -/

theorem state?_enlist (sound : s.FeedsSound own) (there : index < s.watchers.size)
    (request : WatchRequest α) (value : Snapshot α) (slot : Option Int) :
    (s.enlist request value slot).1.state? index = s.state? index := by
  refine state?_congr (getElem?_enlist request value slot index there)
    fun watcher feed found taken => ?_
  unfold enlist
  dsimp only
  split
  · exact Liveness.feed?_call_of_ne (.register request.name s.clock)
      (Nat.ne_of_lt (sound.given found taken))
  · rfl

theorem takeUp_connection (position : Nat) (request : WatchRequest α) (second : Option Account) :
    (s.takeUp position request second).1.connection = s.connection := by
  unfold takeUp
  split
  · rfl
  · split <;> rfl

/-- What is read for another watcher is nothing to a watcher. -/
theorem undergoes_takeUp {position : Nat} (elsewhere : position ≠ index) (request : WatchRequest α)
    (second : Option Account) :
    ∃ added, (∀ event ∈ added, event.Unrelated index id) ∧
      Undergoes index id s (s.takeUp position request second).1 added := by
  unfold takeUp
  split
  · exact ⟨[], List.forall_mem_nil _, undergoes_refl s⟩
  · rename_i account
    split
    · exact ⟨[], List.forall_mem_nil _, undergoes_refl s⟩
    · have unrelated {reaction : Reaction PayloadError} :
          ∀ event ∈ objections request account reaction, event.Unrelated index id :=
        fun event member => Event.unrelated_of_plain (plain_of_mem_objections member) index id
      exact ⟨_, unrelated, undergoes_of_unrelated (events_recordAll _ _) unrelated
        (state?_setWatcher_of_ne elsewhere _) rfl⟩

/-- Whatever a phase does that neither starts the watcher nor owns its listener. -/
theorem Phase.hears (phase : Phase (.apart allowed index id) s next)
    (holding : Holding allowed index id s) (sound : s.FeedsSound own) :
    ∃ added, Hears allowed index id s next added := by
  have there := holding.lt_size
  have noted (event : Event) (unrelated : event.Unrelated index id) :
      ∃ added, Hears allowed index id s (s.record event) added :=
    have alone := List.forall_mem_singleton.2 unrelated
    ⟨_, hears_of_listeners there (undergoes_of_unrelated (events_record s event) alone rfl rfl)
      alone rfl⟩
  have silent (undergoes : Undergoes index id s next [])
      (listeners : next.connection.listeners = s.connection.listeners) :
      ∃ added, Hears allowed index id s next added :=
    ⟨[], hears_of_same there undergoes listeners⟩
  cases phase with
  | call phase =>
    cases phase with
    | change change happens => exact hears_change holding sound happens
    | note event plain => exact noted event (Event.unrelated_of_plain plain index id)
    | answer address found current =>
      exact noted _ (Event.unrelated_returned address found index id)
    | takePlan kind => exact silent (undergoes_of_same rfl rfl rfl) rfl
  | attach placed sink aims fresh =>
    have elsewhere : sink ≠ .watcher index := fun same => fresh index same rfl
    have unrelated : ∀ event ∈ [Event.attached ⟨s.connection.nextListener, placed, sink⟩],
        event.Unrelated index id :=
      List.forall_mem_singleton.2 (Event.unrelated_attached _ index id)
    have undergoes : Undergoes index id s (s.attachListener placed sink) _ :=
      undergoes_of_unrelated (events_attachListener s placed sink) unrelated rfl rfl
    refine ⟨_, hears_of_unrelated undergoes unrelated fun address listens live => ?_⟩
    have before : s.listenersOf index = [⟨id, address, .watcher index⟩] := listens live
    simpa [listenersOf, attachListener, record, Connection.attach, elsewhere] using before
  | ask other different => exact noted _ (Event.unrelated_unsubscribed different index)
  | detach other different =>
    exact ⟨[], hears_of_unrelated (undergoes_of_same rfl rfl rfl) (List.forall_mem_nil _)
      fun _ => listensAt_detach other fun same => absurd same different⟩
  | enlist request value account returned decoded fresh =>
    exact silent (undergoes_of_same rfl (state?_enlist sound there request value account.slot) rfl) rfl
  | hold position other elsewhere different =>
    refine silent (undergoes_of_same ?_ ?_ ?_) ?_
    all_goals
      unfold Session.holdListener
      split
    any_goals rfl
    rename_i known
    exact state?_setWatcher_of_same known rfl rfl rfl
  | takeUp position request second elsewhere awaits returned =>
    obtain ⟨added, unrelated, undergoes⟩ :=
      @undergoes_takeUp _ index id s position elsewhere request second
    exact ⟨added, hears_of_listeners there undergoes unrelated
      (congrArg Connection.listeners (takeUp_connection position request second))⟩
  | retire position elsewhere =>
    exact silent (undergoes_retire_of_ne sound elsewhere)
      (congrArg Connection.listeners (retire_connection position))
  | leave position =>
    have left := s.leave_cases position
    by_cases same : position = index
    · subst same
      exact left.hears_self holding
    · exact left.hears_of_ne same holding sound
  | finish position => exact (s.finish_cases position).hears holding

theorem Phases.hears (phases : Phases (.apart allowed index id) s next)
    (holding : Holding allowed index id s) (sound : s.FeedsSound own) :
    ∃ added, Hears allowed index id s next added := by
  have both : next.FeedsSound own ∧ ∃ added, Hears allowed index id s next added := by
    induction phases with
    | refl => exact ⟨sound, [], hears_refl s⟩
    | tail before phase ih =>
      obtain ⟨sound, added, first⟩ := ih
      obtain ⟨more, second⟩ := phase.hears (Phases.holding before holding) sound
      exact ⟨phase.feedsSound sound, _, first.trans second holding.lt_size⟩
  exact both.2

/-- A call on the registry about another feed is nothing to a watcher. -/
theorem hears_of_call (holding : Holding allowed index id s) (call : Liveness.Call)
    (liveness : next.liveness = s.liveness.call call) (trace : next.trace = s.trace)
    (watchers : next.watchers = s.watchers) (connection : next.connection = s.connection)
    (clock : next.clock = s.clock)
    (different : ∀ (watcher : Watcher α) feed, s.watchers[index]? = some watcher →
      watcher.feed = some feed → feed ≠ s.liveness.subject call) :
    ∃ added, Hears allowed index id s next added := by
  have events : next.events = s.events := congrArg Array.toList trace
  have state : next.state? index = s.state? index := by
    refine state?_congr (by rw [watchers]) fun watcher feed found taken => ?_
    rw [liveness]
    exact Liveness.feed?_call_of_ne call (different watcher feed found taken)
  exact ⟨[], hears_of_same holding.lt_size (undergoes_of_same events state clock)
    (congrArg Connection.listeners connection)⟩

theorem Operates.hears {calls : Bool} (operates : Operates (.apart allowed index id) calls own s next)
    (holding : Holding allowed index id s) (sound : s.FeedsSound own) :
    ∃ added, Hears allowed index id s next added := by
  have apart {other : Nat} (mine : other ∈ own) (watcher : Watcher α) (feed : Nat)
      (found : s.watchers[index]? = some watcher) (taken : watcher.feed = some feed) :
      feed ≠ other := by
    rintro rfl
    exact sound.foreign mine index watcher found taken
  cases operates with
  | phases phases => exact phases.hears holding sound
  | plan kind plan planned =>
    exact ⟨[], hears_of_same holding.lt_size (undergoes_of_same rfl rfl rfl) rfl⟩
  | register called name =>
    exact hears_of_call holding (.register name s.clock) rfl rfl rfl rfl rfl
      fun watcher feed found taken => Nat.ne_of_lt (sound.given found taken)
  | ping called other mine =>
    exact hears_of_call holding (.ping other s.clock) rfl rfl rfl rfl rfl (apart mine)
  | drop called other mine =>
    exact hears_of_call holding (.drop other) rfl rfl rfl rfl rfl (apart mine)

/-! ## Starts -/

theorem CallPhases.listeners (phases : CallPhases allowed s next) :
    next.connection.listeners = s.connection.listeners := by
  induction phases with
  | refl => rfl
  | tail _ phase ih =>
    rw [← ih]
    cases phase with
    | change change happens => exact change_listeners change
    | note | answer | takePlan => rfl

theorem catchUp_listeners (position : Nat) (request : WatchRequest α) :
    (s.catchUp position request).1.connection.listeners = s.connection.listeners := by
  rcases fetched : s.fetch request.address with ⟨looked, outcome⟩
  have looking := (callPhases_fetch s.connection.expects_any fetched).listeners
  cases outcome with
  | error fault =>
    simp only [catchUp, fetched]
    exact looking
  | ok second =>
    rw [catchUp_of_fetched fetched, takeUp_connection]
    exact looking

/-- A watcher that was just started has one listener, at its address. -/
theorem listenersOf_of_started {request : WatchRequest α} (aimed : Aimed s)
    (result : s.watchAccount request = (next, .ok index)) :
    next.listenersOf index = [⟨s.connection.nextListener, request.address, .watcher index⟩] := by
  cases watchAccount_outcome result with
  | @started looked _ first value look decoded attaching =>
  have looking := callPhases_fetch s.connection.expects_any look
  have deaf : looked.listenersOf looked.watchers.size = [] := by
    refine List.filter_eq_nil_iff.2 fun listener attached => ?_
    rw [decide_eq_true_eq]
    intro sink
    obtain ⟨watcher, found, _⟩ :=
      (looking.moves.aimed aimed).listener listener attached _ sink
    exact Nat.lt_irrefl _ (lt_size_of_found found)
  cases attach_outcome attaching with
  | @started held after id subscribed caught =>
  rcases subscribe_phases (Connection.expects_any _) subscribed with
    ⟨_, none, _⟩ | ⟨asking, _, before, later⟩
  · cases none
  have given : asking.connection.nextListener = s.connection.nextListener :=
    before.nextListener.trans looking.nextListener
  have held_listeners : (held.holdListener looked.watchers.size id).connection.listeners =
      held.connection.listeners := by
    unfold holdListener
    split <;> rfl
  have caught_up := catchUp_listeners (s := held.holdListener looked.watchers.size id)
    looked.watchers.size request
  rw [caught] at caught_up
  have logged := (@callPhases_log _ after (fun _ => True) request.options
    (.started request.name request.address)).listeners
  rw [listenersOf, logged, caught_up, held_listeners, later.listeners]
  show (asking.connection.listeners ++ [_]).filter _ = _
  rw [before.listeners, List.filter_append]
  unfold listenersOf at deaf
  show looked.connection.listeners.filter _ ++ _ = _
  rw [deaf, List.nil_append, given]
  exact List.filter_cons_of_pos (decide_eq_true rfl)

end Session
end SlabBook

import Mathlib.Logic.Relation
import SlabBook.Proofs.Moves

/-!
# What a delivery does

A delivery to a watcher tells its watch, pings its feed unless the watcher is disposed, and adds to
the trace what is said of it; it does nothing else.  A second reading tells the watch of an account
and pings nothing.

* `deliver_eq` — a delivery as an equation;
* `change_invariant` — what a change preserves, from what its deliveries preserve;
* `catchUp_of_fetched` — a second reading as an equation.
-/

namespace SlabBook

variable {α : Type}

/-! ## What is said of a delivery -/

/-- The record of an entry, where there is a logger. -/
def WatchOptions.noted (options : WatchOptions) (entry : LogRecord) : List Event :=
  if options.logger then [.logged entry] else []

/-- What comes of handing an update to the handler. -/
def Handler.outcome : Handler → Except Fault Unit
  | .throws message => .error (.failure message)
  | _ => .ok ()

/-- The one record and the one report of an update that does not decode. -/
def WatchRequest.complaints (request : WatchRequest α) (slot : Option Int) (cause : PayloadError) :
    List Event :=
  request.options.noted (.droppedMalformed request.name slot ⟨request.address, cause⟩) ++
    if request.options.handler = .absent then [] else [.reported ⟨request.address, cause⟩]

/-- What is said of an account that was delivered. -/
def WatchRequest.remarks (request : WatchRequest α) (account : Account) :
    Reaction PayloadError → List Event
  | .ignored => []
  | .stale latest =>
    request.options.noted (.skippedStale request.name request.address account.slot latest)
  | .malformed cause => request.complaints account.slot cause
  | .applied => []

/-- What a delivery comes to: only the handler can fail. -/
def WatchRequest.verdict (request : WatchRequest α) : Reaction PayloadError → Except Fault Unit
  | .malformed _ => request.options.handler.outcome
  | _ => .ok ()

/-- What is noted of a listener's outcome. -/
def Listener.thrown (listener : Listener) : Except Fault Unit → List Event
  | .ok () => []
  | .error fault => [.listenerThrew listener.id fault.message]

namespace Event

/-- The event is a note: it changes nothing stored, gives nobody an account, attaches no listener and
asks for no removal. -/
def Plain : Event → Prop
  | .changed _ | .returned _ _ | .delivered _ _ _ | .attached _ | .unsubscribed _ => False
  | _ => True

theorem quiet_of_plain {event : Event} (plain : event.Plain) : event.Quiet := by
  cases event <;> first | exact plain | trivial

theorem heard?_of_plain {event : Event} (plain : event.Plain) (index : Nat) :
    event.heard? index = none := by
  cases event with
  | delivered time listener account => exact plain.elim
  | _ => rfl

end Event

namespace Session

variable {s next : Session α} {index : Nat} {watcher : Watcher α}

def recordAll (s : Session α) (events : List Event) : Session α :=
  { s with trace := s.trace ++ events }

@[simp]
theorem events_recordAll (s : Session α) (events : List Event) :
    (s.recordAll events).events = s.events ++ events := by
  simp [recordAll, Session.events]

@[simp]
theorem recordAll_nil (s : Session α) : s.recordAll [] = s := by
  simp [recordAll]

theorem record_eq_recordAll (s : Session α) (event : Event) :
    s.record event = s.recordAll [event] := by
  simp [record, recordAll]

theorem recordAll_recordAll (s : Session α) (first second : List Event) :
    (s.recordAll first).recordAll second = s.recordAll (first ++ second) := by
  have joined : s.trace ++ first ++ second = s.trace ++ (first ++ second) := by
    apply Array.toList_inj.1
    simp only [Array.toList_appendList, List.append_assoc]
  simp only [recordAll, joined]

theorem recordAll_cons (s : Session α) (event : Event) (events : List Event) :
    (s.record event).recordAll events = s.recordAll (event :: events) := by
  rw [record_eq_recordAll, recordAll_recordAll, List.singleton_append]

theorem log_eq (options : WatchOptions) (entry : LogRecord) :
    s.log options entry = s.recordAll (options.noted entry) := by
  unfold log WatchOptions.noted
  split
  · exact record_eq_recordAll s _
  · exact (recordAll_nil s).symm

theorem reportMalformed_eq (request : WatchRequest α) (slot : Option Int) (cause : PayloadError) :
    s.reportMalformed request slot cause =
      (s.recordAll (request.complaints slot cause), request.options.handler.outcome) := by
  unfold reportMalformed WatchRequest.complaints
  simp only [log_eq]
  cases request.options.handler with
  | absent => simp [Handler.outcome]
  | reports => simp [Handler.outcome, record_eq_recordAll, recordAll_recordAll]
  | throws message => simp [Handler.outcome, record_eq_recordAll, recordAll_recordAll]

/-! ## A delivery -/

/-- Hearing anything counts as life, unless the watcher is disposed. -/
def pingWatcher (s : Session α) (watcher : Watcher α) : Session α :=
  if watcher.watch.disposed then s else s.pingFeed watcher.feed

@[simp]
theorem pingFeed_watchers (feed : Option Nat) : (s.pingFeed feed).watchers = s.watchers := by
  cases feed <;> rfl

@[simp]
theorem pingFeed_trace (feed : Option Nat) : (s.pingFeed feed).trace = s.trace := by
  cases feed <;> rfl

@[simp]
theorem pingWatcher_watchers : (s.pingWatcher watcher).watchers = s.watchers := by
  unfold pingWatcher
  split
  · rfl
  · exact pingFeed_watchers _

@[simp]
theorem pingWatcher_events : (s.pingWatcher watcher).events = s.events := by
  unfold pingWatcher
  split
  · rfl
  · rw [events, pingFeed_trace, events]

theorem pingWatcher_recordAll (events : List Event) :
    (s.recordAll events).pingWatcher watcher = (s.pingWatcher watcher).recordAll events := by
  unfold pingWatcher
  split
  · rfl
  · cases watcher.feed <;> rfl

/-- A watcher is told of an account. -/
theorem notifyWatcher_eq (found : s.watchers[index]? = some watcher) (account : Account) :
    s.notifyWatcher index account =
      let told := watcher.watch.notify watcher.request.format.decode s.clock account
      (((s.pingWatcher watcher).setWatcher index { watcher with watch := told.1 }).recordAll
        (watcher.request.remarks account told.2), watcher.request.verdict told.2) := by
  unfold notifyWatcher pingWatcher
  simp only [found]
  rcases made : watcher.watch.notify watcher.request.format.decode s.clock account with
    ⟨watch, reaction⟩
  have untold (unapplied : reaction ≠ .applied) : watch = watcher.watch := by
    rcases Watch.notify_cases made with ⟨same, _⟩ | ⟨applied, _⟩
    · exact same
    · exact absurd applied unapplied
  have ignored_iff : reaction = .ignored ↔ watcher.watch.disposed = true := by
    unfold Watch.notify at made
    split at made
    · rename_i disposed
      cases made
      exact iff_of_true rfl disposed
    · rename_i live
      refine iff_of_false ?_ live
      rintro rfl
      split at made
      · cases made
      · rcases Watch.apply_cases made with ⟨_, _, other, _⟩ | ⟨other, _⟩ <;> cases other
  have pinged_found : (s.pingFeed watcher.feed).watchers[index]? = some watcher := by
    rw [pingFeed_watchers, found]
  cases reaction with
  | ignored =>
    rw [untold (by simp), if_pos (ignored_iff.1 rfl), setWatcher_self found]
    simp [WatchRequest.remarks, WatchRequest.verdict]
  | stale latest =>
    have live : ¬ watcher.watch.disposed = true := fun gone => by cases ignored_iff.2 gone
    rw [untold (by simp), if_neg live, setWatcher_self pinged_found]
    simp [WatchRequest.remarks, WatchRequest.verdict, log_eq]
  | malformed cause =>
    have live : ¬ watcher.watch.disposed = true := fun gone => by cases ignored_iff.2 gone
    rw [untold (by simp), if_neg live, setWatcher_self pinged_found]
    simp [WatchRequest.remarks, WatchRequest.verdict, reportMalformed_eq]
  | applied =>
    have live : ¬ watcher.watch.disposed = true := fun gone => by cases ignored_iff.2 gone
    rw [if_neg live]
    simp [WatchRequest.remarks, WatchRequest.verdict]

/-- A delivery to a watcher, whole. -/
theorem deliver_eq {listener : Listener} (sink : listener.sink = .watcher index)
    (found : s.watchers[index]? = some watcher) (version : Stored) :
    s.deliver version listener =
      let account := version.account listener.address
      let told := watcher.watch.notify watcher.request.format.decode s.clock account
      ((s.pingWatcher watcher).setWatcher index { watcher with watch := told.1 }).recordAll
        (.delivered s.clock listener account :: (watcher.request.remarks account told.2 ++
          listener.thrown (watcher.request.verdict told.2))) := by
  have there : (s.record (.delivered s.clock listener
      (version.account listener.address))).watchers[index]? = some watcher := found
  have moved : ((s.record (.delivered s.clock listener
      (version.account listener.address))).pingWatcher watcher) =
        (s.pingWatcher watcher).record (.delivered s.clock listener
          (version.account listener.address)) := by
    rw [record_eq_recordAll, record_eq_recordAll, pingWatcher_recordAll]
  unfold deliver
  simp only [sink, notifyWatcher_eq there, moved]
  have clock : (s.record (.delivered s.clock listener
      (version.account listener.address))).clock = s.clock := rfl
  rw [clock]
  generalize watcher.watch.notify watcher.request.format.decode s.clock
    (version.account listener.address) = told
  have pushed : ((s.pingWatcher watcher).record (.delivered s.clock listener
      (version.account listener.address))).setWatcher index { watcher with watch := told.1 } =
      ((s.pingWatcher watcher).setWatcher index { watcher with watch := told.1 }).record
        (.delivered s.clock listener (version.account listener.address)) := rfl
  rw [pushed, recordAll_cons]
  cases watcher.request.verdict told.2 with
  | ok => simp [Listener.thrown]
  | error fault => simp [Listener.thrown, record_eq_recordAll, recordAll_recordAll]

/-- A delivery to anything else. -/
theorem deliver_eq_record {listener : Listener}
    (nobody : ∀ index, listener.sink = .watcher index → s.watchers[index]? = none)
    (version : Stored) :
    s.deliver version listener =
      s.record (.delivered s.clock listener (version.account listener.address)) := by
  unfold deliver
  cases sink : listener.sink with
  | subscription _ => rfl
  | watcher index =>
    have absent : (s.record (.delivered s.clock listener
        (version.account listener.address))).watchers[index]? = none := nobody index sink
    simp only [notifyWatcher, absent]

theorem plain_of_mem_noted {options : WatchOptions} {entry : LogRecord} {event : Event}
    (member : event ∈ options.noted entry) : event.Plain := by
  unfold WatchOptions.noted at member
  split at member
  · obtain rfl := List.mem_singleton.1 member
    trivial
  · cases member

theorem plain_of_mem_complaints {request : WatchRequest α} {slot : Option Int}
    {cause : PayloadError} {event : Event} (member : event ∈ request.complaints slot cause) :
    event.Plain := by
  rcases List.mem_append.1 member with noted | reported
  · exact plain_of_mem_noted noted
  · split at reported
    · cases reported
    · obtain rfl := List.mem_singleton.1 reported
      trivial

theorem plain_of_mem_remarks {request : WatchRequest α} {account : Account}
    {reaction : Reaction PayloadError} {event : Event}
    (member : event ∈ request.remarks account reaction) : event.Plain := by
  cases reaction with
  | ignored => cases member
  | stale latest => exact plain_of_mem_noted member
  | malformed cause => exact plain_of_mem_complaints member
  | applied => cases member

theorem plain_of_mem_thrown {listener : Listener} {outcome : Except Fault Unit} {event : Event}
    (member : event ∈ listener.thrown outcome) : event.Plain := by
  cases outcome with
  | ok => cases member
  | error fault =>
    obtain rfl := List.mem_singleton.1 member
    trivial

/-- What is said of a delivery and of its outcome. -/
theorem plain_of_said {request : WatchRequest α} {account : Account} {listener : Listener}
    {reaction : Reaction PayloadError} :
    ∀ event ∈ request.remarks account reaction ++ listener.thrown (request.verdict reaction),
      event.Plain := by
  intro event member
  rcases List.mem_append.1 member with remark | thrown
  · exact plain_of_mem_remarks remark
  · exact plain_of_mem_thrown thrown

/-- A delivery finds a watcher, or it is recorded and that is all. -/
theorem deliver_cases (s : Session α) (version : Stored) (listener : Listener) :
    (∃ position there, listener.sink = .watcher position ∧
      s.watchers[position]? = some there) ∨
    (∀ position, listener.sink = .watcher position → s.watchers[position]? = none) ∧
      s.deliver version listener =
        s.record (.delivered s.clock listener (version.account listener.address)) := by
  by_cases aimed : ∃ position there, listener.sink = .watcher position ∧
      s.watchers[position]? = some there
  · exact .inl aimed
  · have nobody (position : Nat) (sink : listener.sink = .watcher position) :
        s.watchers[position]? = none :=
      Option.eq_none_iff_forall_ne_some.2 fun there known => aimed ⟨position, there, sink, known⟩
    exact .inr ⟨nobody, deliver_eq_record nobody version⟩

theorem pingFeed_connection (feed : Option Nat) : (s.pingFeed feed).connection = s.connection := by
  cases feed <;> rfl

theorem pingFeed_clock (feed : Option Nat) : (s.pingFeed feed).clock = s.clock := by
  cases feed <;> rfl

theorem pingWatcher_eq_pingFeed (s : Session α) (watcher : Watcher α) :
    ∃ feed, s.pingWatcher watcher = s.pingFeed feed := by
  unfold pingWatcher
  split
  · exact ⟨none, rfl⟩
  · exact ⟨_, rfl⟩

theorem deliver_connection (version : Stored) (listener : Listener) :
    (s.deliver version listener).connection = s.connection := by
  rcases s.deliver_cases version listener with ⟨position, there, sink, known⟩ | ⟨_, recorded⟩
  · obtain ⟨feed, pinged⟩ := s.pingWatcher_eq_pingFeed there
    rw [deliver_eq sink known, pinged]
    exact pingFeed_connection feed
  · rw [recorded]
    rfl

theorem deliver_clock (version : Stored) (listener : Listener) :
    (s.deliver version listener).clock = s.clock := by
  rcases s.deliver_cases version listener with ⟨position, there, sink, known⟩ | ⟨_, recorded⟩
  · obtain ⟨feed, pinged⟩ := s.pingWatcher_eq_pingFeed there
    rw [deliver_eq sink known, pinged]
    exact pingFeed_clock feed
  · rw [recorded]
    rfl

/-- A delivery is recorded, and what is said of it after that is nothing but notes. -/
theorem deliver_events (s : Session α) (version : Stored) (listener : Listener) :
    ∃ said, (∀ event ∈ said, event.Plain) ∧ (s.deliver version listener).events =
      s.events ++ .delivered s.clock listener (version.account listener.address) :: said := by
  rcases s.deliver_cases version listener with ⟨position, there, sink, known⟩ | ⟨_, recorded⟩
  · let account := version.account listener.address
    let told := there.watch.notify there.request.format.decode s.clock account
    have grown : (s.deliver version listener).events = s.events ++
        .delivered s.clock listener account :: (there.request.remarks account told.2 ++
          listener.thrown (there.request.verdict told.2)) := by
      rw [deliver_eq sink known, events_recordAll]
      show (s.pingWatcher there).events ++ _ = _
      rw [pingWatcher_events]
    exact ⟨_, plain_of_said, grown⟩
  · exact ⟨[], nofun, by rw [recorded, events_record]⟩

/-! ## Changes -/

/-- What deliveries to attached listeners preserve. -/
theorem deliveries_invariant {holds : Session α → Prop} (version : Stored)
    (delivered : ∀ now listener, listener ∈ now.connection.listeners → holds now →
      holds (now.deliver version listener))
    (listeners : List Listener) (attached : listeners ⊆ s.connection.listeners) (before : holds s) :
    holds (listeners.foldl (fun s listener => s.deliver version listener) s) := by
  induction listeners generalizing s with
  | nil => exact before
  | cons listener rest ih =>
    refine ih ?_ (delivered s listener (attached (List.mem_cons_self ..)) before)
    rw [deliver_connection]
    exact fun other member => attached (List.mem_cons_of_mem _ member)

/-- What a change preserves once it is recorded and kept: what each of its deliveries preserves. -/
theorem change_invariant {holds : Session α → Prop} (change : Change)
    (kept : holds ((s.record (.changed change)).keep change))
    (delivered : ∀ now version listener, listener ∈ now.connection.listeners → holds now →
      holds (now.deliver version listener)) : holds (s.change change) := by
  have announced (now : Session α) (address : Address) (version : Stored) (before : holds now) :
      holds (now.announce address version) :=
    deliveries_invariant version (fun now listener => delivered now version listener) _
      (fun _ member => (List.mem_filter.1 member).1) before
  cases change with
  | store address version => exact kept
  | announce address version => exact announced _ address version kept
  | publish address version => exact announced _ address version kept
  | remove address => exact kept
  | advance elapsed => exact kept

theorem change_listeners (change : Change) :
    (s.change change).connection.listeners = s.connection.listeners := by
  refine @change_invariant _ s (fun now => now.connection.listeners = s.connection.listeners)
    change (keep_listeners _ change) fun now version listener _ same => ?_
  rw [deliver_connection, same]

/-! ## Second readings -/

/-- What is said of an account that was read: only what does not decode is worth a word. -/
def objections (request : WatchRequest α) (account : Account) :
    Reaction PayloadError → List Event
  | .malformed cause => request.complaints account.slot cause
  | _ => []

/-- What is left of a second reading once it is fetched. -/
def takeUp (s : Session α) (index : Nat) (request : WatchRequest α) :
    Option Account → Session α × Except Fault Unit
  | none => (s, .ok ())
  | some account =>
    match s.watchers[index]? with
    | none => (s, .ok ())
    | some watcher =>
      let told := watcher.watch.catchUp request.format.decode s.clock account
      ((s.setWatcher index { watcher with watch := told.1 }).recordAll
        (objections request account told.2), request.verdict told.2)

theorem catchUp_of_fetched {request : WatchRequest α} {second : Option Account}
    (fetched : s.fetch request.address = (next, .ok second)) :
    s.catchUp index request = next.takeUp index request second := by
  unfold catchUp takeUp
  rw [fetched]
  cases second with
  | none => rfl
  | some account =>
    dsimp only
    cases found : next.watchers[index]? with
    | none => rfl
    | some watcher =>
      dsimp only
      rcases made : watcher.watch.catchUp request.format.decode next.clock account with
        ⟨watch, reaction⟩
      cases reaction with
      | malformed cause =>
        have same : watch = watcher.watch := by
          rcases Watch.catchUp_cases made with ⟨same, _⟩ | ⟨applied, _⟩
          · exact same
          · cases applied
        rw [same, setWatcher_self found]
        exact reportMalformed_eq request account.slot cause
      | ignored => simp [objections, WatchRequest.verdict]
      | stale latest => simp [objections, WatchRequest.verdict]
      | applied => simp [objections, WatchRequest.verdict]

theorem plain_of_mem_objections {request : WatchRequest α} {account : Account}
    {reaction : Reaction PayloadError} {event : Event}
    (member : event ∈ objections request account reaction) : event.Plain := by
  cases reaction with
  | malformed cause => exact plain_of_mem_complaints member
  | ignored => cases member
  | stale latest => cases member
  | applied => cases member

end Session
end SlabBook

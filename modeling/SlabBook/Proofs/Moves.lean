import Mathlib.Logic.Relation
import SlabBook.Live.Session
import SlabBook.Proofs.Watch

/-!
# Moves of a session

Every operation of a session is a row of moves, each of which adds at most one event to the trace
and changes at most one watcher.  What holds at the start and survives each kind of move holds
whatever the operations are and however deliveries fall between them.
-/

namespace SlabBook

variable {α : Type}

namespace Event

/-- The event changes nothing stored, gives nobody an account and adds no listener. -/
def Quiet : Event → Prop
  | .changed _ | .returned _ _ | .attached _ | .delivered _ _ _ => False
  | _ => True

/-- The account that a watcher hears of. -/
def heard? (index : Nat) : Event → Option Account
  | .delivered _ listener account => if listener.sink = .watcher index then some account else none
  | _ => none

/-- The listener that is added. -/
def attached? : Event → Option Listener
  | .attached listener => some listener
  | _ => none

/-- The listener whose removal is asked for. -/
def released? : Event → Option Nat
  | .unsubscribed id => some id
  | _ => none

end Event

namespace Session

def events (s : Session α) : List Event := s.trace.toList

/-- The accounts delivered to a watcher, in the order of their deliveries. -/
def heardBy (index : Nat) (events : List Event) : List Account :=
  events.filterMap (Event.heard? index)

/-- What a change does to the table and to the clock. -/
def keep (s : Session α) : Change → Session α
  | .store address version => s.store address version
  | .publish address version => s.store address version
  | .announce _ _ => s
  | .remove address => s.forget address
  | .advance elapsed => { s with clock := Clock.advance s.clock elapsed }

/-- The watcher's watch is told of an account. -/
def tell (s : Session α) (index : Nat) (account : Account) : Session α :=
  match s.watchers[index]? with
  | none => s
  | some watcher =>
    let watch := (watcher.watch.notify watcher.request.format.decode s.clock account).1
    s.setWatcher index { watcher with watch }

/-- A version reaches a listener, apart from what is logged, reported and pinged. -/
def hear (s : Session α) (version : Stored) (listener : Listener) : Session α :=
  let account := version.account listener.address
  let s := s.record (.delivered s.clock listener account)
  match listener.sink with
  | .subscription _ => s
  | .watcher index => s.tell index account

/-- One move.  A listener aims at a watcher of its own address, an enlisted watcher's first account
was returned, and so was the account of a second reading. -/
inductive Move : Session α → Session α → Prop
  | frame {s next : Session α} (trace : next.trace = s.trace) (watchers : next.watchers = s.watchers)
      (table : next.connection.table = s.connection.table)
      (listeners : next.connection.listeners ⊆ s.connection.listeners) : Move s next
  | note (s : Session α) (event : Event) (quiet : event.Quiet) : Move s (s.record event)
  | change (s : Session α) (change : Change) : Move s ((s.record (.changed change)).keep change)
  | answer (s : Session α) (address : Address) (found : Option Account)
      (current : found = (s.connection.find? address).map fun version => version.account address) :
      Move s (s.record (.returned address found))
  | attach (s : Session α) (address : Address) (sink : Sink)
      (aimed : ∀ index, sink = .watcher index →
        ∃ watcher, s.watchers[index]? = some watcher ∧ watcher.request.address = address) :
      Move s (s.attachListener address sink)
  | hear (s : Session α) (version : Stored) (listener : Listener)
      (attached : listener ∈ s.connection.listeners) : Move s (s.hear version listener)
  | enlist (s : Session α) (request : WatchRequest α) (value : Snapshot α) (account : Account)
      (returned : .returned request.address (some account) ∈ s.events)
      (decoded : request.format.decode account = .ok value) :
      Move s (s.enlist request value account.slot).1
  | reread (s : Session α) (index : Nat) (watcher : Watcher α) (account : Account)
      (found : s.watchers[index]? = some watcher)
      (returned : .returned watcher.request.address (some account) ∈ s.events) :
      Move s (s.setWatcher index
        { watcher with
          watch := (watcher.watch.catchUp watcher.request.format.decode s.clock account).1 })
  | tend (s : Session α) (index : Nat) (watcher next : Watcher α)
      (found : s.watchers[index]? = some watcher) (request : next.request = watcher.request)
      (watch : next.watch = watcher.watch ∨ next.watch = watcher.watch.dispose) :
      Move s (s.setWatcher index next)

abbrev Moves : Session α → Session α → Prop := Relation.ReflTransGen Move

variable {s next : Session α} {index : Nat} {watcher : Watcher α} {address : Address}

/-! ## Fields -/

@[simp]
theorem events_record (s : Session α) (event : Event) :
    (s.record event).events = s.events ++ [event] := by
  simp [events, record]

@[simp]
theorem keep_trace (s : Session α) (change : Change) : (s.keep change).trace = s.trace := by
  cases change <;> rfl

@[simp]
theorem keep_watchers (s : Session α) (change : Change) :
    (s.keep change).watchers = s.watchers := by
  cases change <;> rfl

@[simp]
theorem keep_listeners (s : Session α) (change : Change) :
    (s.keep change).connection.listeners = s.connection.listeners := by
  cases change <;> rfl

theorem events_changed (s : Session α) (change : Change) :
    ((s.record (.changed change)).keep change).events = s.events ++ [.changed change] := by
  rw [events, keep_trace, ← events, events_record]

theorem events_attachListener (s : Session α) (address : Address) (sink : Sink) :
    (s.attachListener address sink).events =
      s.events ++ [.attached ⟨s.connection.nextListener, address, sink⟩] :=
  events_record _ _

@[simp]
theorem tell_trace (s : Session α) (index : Nat) (account : Account) :
    (s.tell index account).trace = s.trace := by
  unfold tell
  split <;> rfl

@[simp]
theorem tell_connection (s : Session α) (index : Nat) (account : Account) :
    (s.tell index account).connection = s.connection := by
  unfold tell
  split <;> rfl

theorem hear_connection (s : Session α) (version : Stored) (listener : Listener) :
    (s.hear version listener).connection = s.connection := by
  unfold hear
  cases listener.sink with
  | subscription _ => rfl
  | watcher index => exact tell_connection _ _ _

theorem events_hear (s : Session α) (version : Stored) (listener : Listener) :
    (s.hear version listener).events =
      s.events ++ [.delivered s.clock listener (version.account listener.address)] := by
  unfold hear
  cases listener.sink with
  | subscription _ => exact events_record _ _
  | watcher index =>
    rw [events, tell_trace]
    exact events_record _ _

theorem getElem?_setWatcher (s : Session α) (index queried : Nat) (watcher : Watcher α) :
    (s.setWatcher index watcher).watchers[queried]? =
      if index = queried then
        if index < s.watchers.size then some watcher else none
      else s.watchers[queried]? := by
  simp only [setWatcher, Array.getElem?_setIfInBounds]

theorem lt_size_of_found (found : s.watchers[index]? = some watcher) : index < s.watchers.size :=
  (Array.getElem?_eq_some_iff.1 found).1

theorem setWatcher_self (found : s.watchers[index]? = some watcher) :
    s.setWatcher index watcher = s := by
  have same : s.watchers.setIfInBounds index watcher = s.watchers := by
    refine Array.ext_getElem? fun position => ?_
    rw [Array.getElem?_setIfInBounds]
    by_cases equal : index = position
    · subst equal
      rw [if_pos rfl, if_pos (lt_size_of_found found), found]
    · rw [if_neg equal]
  simp only [setWatcher, same]

/-! ## What a move does to a watcher -/

/-- What becomes of a watcher: its watch is kept or disposed, hears of an account, or takes a second
reading.  In the first and last case the watcher hears of nothing. -/
inductive Fate (s next : Session α) (index : Nat) (watcher : Watcher α) : Watcher α → Prop
  | kept {after : Watcher α} (request : after.request = watcher.request)
      (watch : after.watch = watcher.watch ∨ after.watch = watcher.watch.dispose)
      (silent : heardBy index next.events = heardBy index s.events) :
      Fate s next index watcher after
  | heard (version : Stored) (listener : Listener)
      (attached : listener ∈ s.connection.listeners) (sink : listener.sink = .watcher index)
      (told : next.events =
        s.events ++ [.delivered s.clock listener (version.account listener.address)]) :
      Fate s next index watcher
        { watcher with
          watch := (watcher.watch.notify watcher.request.format.decode s.clock
            (version.account listener.address)).1 }
  | reread (account : Account)
      (returned : .returned watcher.request.address (some account) ∈ s.events)
      (silent : heardBy index next.events = heardBy index s.events) :
      Fate s next index watcher
        { watcher with
          watch := (watcher.watch.catchUp watcher.request.format.decode s.clock account).1 }

theorem latest_of_kept {after : Watcher α}
    (watch : after.watch = watcher.watch ∨ after.watch = watcher.watch.dispose) :
    after.latest = watcher.latest := by
  rcases watch with same | disposed
  · exact congrArg Watch.latest same
  · exact (congrArg Watch.latest disposed :)

theorem slot_of_kept {after : Watcher α}
    (watch : after.watch = watcher.watch ∨ after.watch = watcher.watch.dispose) :
    after.watch.slot = watcher.watch.slot := by
  rcases watch with same | disposed
  · exact congrArg Watch.slot same
  · exact (congrArg Watch.slot disposed :)

theorem heardBy_append (index : Nat) (earlier later : List Event) :
    heardBy index (earlier ++ later) = heardBy index earlier ++ heardBy index later :=
  List.filterMap_append

theorem heardBy_concat_of_quiet {event : Event} (silent : event.heard? index = none)
    (events : List Event) : heardBy index (events ++ [event]) = heardBy index events := by
  simp [heardBy, silent]

theorem Fate.of_same (same : next.watchers[index]? = s.watchers[index]?)
    (silent : heardBy index next.events = heardBy index s.events)
    (found : s.watchers[index]? = some watcher) :
    ∃ after, next.watchers[index]? = some after ∧ Fate s next index watcher after :=
  ⟨watcher, same.trans found, .kept rfl (.inl rfl) silent⟩

theorem getElem?_enlist (request : WatchRequest α) (value : Snapshot α) (slot : Option Int)
    (queried : Nat) (old : queried < s.watchers.size) :
    (s.enlist request value slot).1.watchers[queried]? = s.watchers[queried]? := by
  simp only [enlist, Array.getElem?_push, Nat.ne_of_lt old, if_false]

theorem getElem?_tell_of_ne (account : Account) (other : Nat) (different : other ≠ index) :
    (s.tell other account).watchers[index]? = s.watchers[index]? := by
  unfold tell
  split
  · rfl
  · rw [getElem?_setWatcher, if_neg different]

theorem getElem?_tell (account : Account) (found : s.watchers[index]? = some watcher) :
    (s.tell index account).watchers[index]? = some { watcher with
      watch := (watcher.watch.notify watcher.request.format.decode s.clock account).1 } := by
  simp only [tell, found]
  rw [getElem?_setWatcher, if_pos rfl, if_pos (lt_size_of_found found)]

theorem getElem?_hear_of_ne (version : Stored) (listener : Listener)
    (elsewhere : listener.sink ≠ .watcher index) :
    (s.hear version listener).watchers[index]? = s.watchers[index]? := by
  unfold hear
  cases sink : listener.sink with
  | subscription _ => rfl
  | watcher other =>
    have different : other ≠ index := fun same => elsewhere (same ▸ sink)
    exact getElem?_tell_of_ne _ other different

/-- The inversion of a move, seen from a watcher. -/
theorem Move.fate (move : Move s next) (found : s.watchers[index]? = some watcher) :
    ∃ after, next.watchers[index]? = some after ∧ Fate s next index watcher after := by
  cases move with
  | frame trace watchers table listeners =>
    exact Fate.of_same (by rw [watchers]) (by rw [events, events, trace]) found
  | note event quiet =>
    refine Fate.of_same rfl ?_ found
    rw [events_record]
    exact heardBy_concat_of_quiet (by cases event <;> simp_all [Event.heard?, Event.Quiet]) _
  | change change =>
    refine Fate.of_same (by rw [keep_watchers]; rfl) ?_ found
    rw [events_changed]
    exact heardBy_concat_of_quiet rfl _
  | answer address answered current =>
    refine Fate.of_same rfl ?_ found
    rw [events_record]
    exact heardBy_concat_of_quiet rfl _
  | attach address sink aimed =>
    refine Fate.of_same rfl ?_ found
    rw [events_attachListener]
    exact heardBy_concat_of_quiet rfl _
  | hear version listener attached =>
    have told := events_hear s version listener
    by_cases aimed : listener.sink = .watcher index
    · refine ⟨_, ?_, .heard version listener attached aimed told⟩
      simp only [Session.hear, aimed]
      exact getElem?_tell _ found
    · refine Fate.of_same (getElem?_hear_of_ne version listener aimed) ?_ found
      rw [told]
      exact heardBy_concat_of_quiet (by simp [Event.heard?, aimed]) _
  | enlist request value account returned decoded =>
    exact Fate.of_same (getElem?_enlist _ _ _ _ (lt_size_of_found found)) rfl found
  | reread position other account there returned =>
    by_cases same : position = index
    · subst same
      obtain rfl : other = watcher := Option.some.inj (there.symm.trans found)
      refine ⟨_, ?_, .reread account returned rfl⟩
      rw [getElem?_setWatcher, if_pos rfl, if_pos (lt_size_of_found found)]
    · exact Fate.of_same (by rw [getElem?_setWatcher, if_neg same]) rfl found
  | tend position other changed there request watch =>
    by_cases same : position = index
    · subst same
      obtain rfl : other = watcher := Option.some.inj (there.symm.trans found)
      refine ⟨changed, ?_, .kept request watch rfl⟩
      rw [getElem?_setWatcher, if_pos rfl, if_pos (lt_size_of_found found)]
    · exact Fate.of_same (by rw [getElem?_setWatcher, if_neg same]) rfl found

/-- A watcher that was not there before is enlisted on an account that was returned for it. -/
theorem Move.born (move : Move s next) (absent : s.watchers[index]? = none)
    (found : next.watchers[index]? = some watcher) :
    next.events = s.events ∧ ∃ value account,
      .returned watcher.request.address (some account) ∈ s.events ∧
        watcher.request.format.decode account = .ok value ∧
        watcher.watch = .seed value account.slot s.clock := by
  have unchanged (same : next.watchers[index]? = s.watchers[index]?) : False := by
    rw [same, absent] at found
    cases found
  have untouched {position : Nat} {there other : Watcher α}
      (known : s.watchers[position]? = some there)
      (moved : next = s.setWatcher position other) : False := by
    refine unchanged ?_
    have different : position ≠ index := by
      rintro rfl
      rw [absent] at known
      cases known
    rw [moved, getElem?_setWatcher, if_neg different]
  cases move with
  | frame trace watchers table listeners => exact (unchanged (by rw [watchers])).elim
  | note event quiet => exact (unchanged rfl).elim
  | change change => exact (unchanged (by rw [keep_watchers]; rfl)).elim
  | answer address answered current => exact (unchanged rfl).elim
  | attach address sink aimed => exact (unchanged rfl).elim
  | hear version listener attached =>
    refine (unchanged ?_).elim
    by_cases aimed : listener.sink = .watcher index
    · simp only [Session.hear, aimed, tell]
      simp only [record, absent]
    · exact getElem?_hear_of_ne version listener aimed
  | enlist request value account returned decoded =>
    simp only [Session.enlist, Array.getElem?_push] at found
    split at found
    · cases found
      exact ⟨rfl, value, account, returned, decoded, rfl⟩
    · rw [absent] at found
      cases found
  | reread position there account known returned => exact (untouched known rfl).elim
  | tend position there other known request watch => exact (untouched known rfl).elim

/-! ## What a move adds to the trace -/

/-- The events of one move.  Only an attached listener hears. -/
inductive Adds (s : Session α) : List Event → Prop
  | nothing : Adds s []
  | silent (event : Event) (silent : ∀ index, event.heard? index = none) : Adds s [event]
  | heard (version : Stored) (listener : Listener) (attached : listener ∈ s.connection.listeners) :
      Adds s [.delivered s.clock listener (version.account listener.address)]

theorem Move.adds (move : Move s next) :
    ∃ added, next.events = s.events ++ added ∧ Adds s added := by
  cases move with
  | frame trace watchers table listeners =>
    exact ⟨[], by rw [events, events, trace, List.append_nil], .nothing⟩
  | note event quiet =>
    refine ⟨[event], events_record s event, .silent event fun index => ?_⟩
    cases event <;> simp_all [Event.heard?, Event.Quiet]
  | change change =>
    exact ⟨[.changed change], events_changed s change, .silent _ fun _ => rfl⟩
  | answer address answered current =>
    exact ⟨[.returned address answered], events_record s _, .silent _ fun _ => rfl⟩
  | attach address sink aimed =>
    exact ⟨_, events_attachListener s address sink, .silent _ fun _ => rfl⟩
  | hear version listener attached =>
    exact ⟨_, events_hear s version listener, .heard version listener attached⟩
  | enlist request value account returned decoded =>
    exact ⟨[], by simp [events, Session.enlist], .nothing⟩
  | reread position there account known returned =>
    exact ⟨[], by simp [events, setWatcher], .nothing⟩
  | tend position there other known request watch =>
    exact ⟨[], by simp [events, setWatcher], .nothing⟩

theorem Move.events_prefix (move : Move s next) : s.events <+: next.events := by
  obtain ⟨added, grown, _⟩ := move.adds
  exact ⟨added, grown.symm⟩

theorem Move.listener_cases (move : Move s next) {listener : Listener}
    (attached : listener ∈ next.connection.listeners) :
    listener ∈ s.connection.listeners ∨
      ∀ index, listener.sink = .watcher index →
        ∃ watcher, s.watchers[index]? = some watcher ∧
          watcher.request.address = listener.address := by
  cases move with
  | frame trace watchers table listeners => exact .inl (listeners attached)
  | note event quiet => exact .inl attached
  | change change => exact .inl (by rwa [keep_listeners] at attached)
  | answer address answered current => exact .inl attached
  | attach address sink aimed =>
    simp only [attachListener, record, Connection.attach, List.mem_append,
      List.mem_singleton] at attached
    rcases attached with old | rfl
    · exact .inl old
    · exact .inr aimed
  | hear version listener _ => exact .inl (by rwa [hear_connection] at attached)
  | enlist request value account returned decoded => exact .inl attached
  | reread position there account known returned => exact .inl attached
  | tend position there other known request watch => exact .inl attached

/-! ## Rows of moves -/

theorem Moves.events_prefix (moves : Moves s next) : s.events <+: next.events := by
  induction moves with
  | refl => exact List.prefix_refl _
  | tail _ move ih => exact ih.trans move.events_prefix

theorem Moves.within {final : List Event} (moves : Moves s next) (within : next.events ⊆ final) :
    s.events ⊆ final :=
  fun _ seen => within (moves.events_prefix.subset seen)

theorem Moves.mem_events (moves : Moves s next) {event : Event} (seen : event ∈ s.events) :
    event ∈ next.events :=
  moves.events_prefix.subset seen

theorem Fate.request {after : Watcher α} (fate : Fate s next index watcher after) :
    after.request = watcher.request := by
  cases fate with
  | kept request watch silent => exact request
  | heard version listener attached sink told => rfl
  | reread account returned silent => rfl

/-- A watcher stays and keeps its request. -/
theorem Moves.request (moves : Moves s next) (found : s.watchers[index]? = some watcher) :
    ∃ after, next.watchers[index]? = some after ∧ after.request = watcher.request := by
  induction moves with
  | refl => exact ⟨watcher, found, rfl⟩
  | tail _ move ih =>
    obtain ⟨between, there, request⟩ := ih
    obtain ⟨after, later, fate⟩ := move.fate there
    exact ⟨after, later, fate.request.trans request⟩

theorem Moves.size_le (moves : Moves s next) : s.watchers.size ≤ next.watchers.size := by
  refine Nat.le_of_not_lt fun inside => ?_
  obtain ⟨after, found, _⟩ := moves.request (Array.getElem?_eq_getElem inside)
  exact Nat.lt_irrefl _ (lt_size_of_found found)

/-! ## Listeners and their watchers -/

/-- Every listener that aims at a watcher finds it, at the listener's own address, and only watchers
that are there have heard of anything. -/
structure Aimed (s : Session α) : Prop where
  listener : ∀ listener ∈ s.connection.listeners, ∀ index, listener.sink = .watcher index →
    ∃ watcher, s.watchers[index]? = some watcher ∧ watcher.request.address = listener.address
  unheard : ∀ index, s.watchers.size ≤ index → heardBy index s.events = []

/-- The listener of a watcher listens at the watcher's address. -/
theorem Aimed.address_eq {listener : Listener} (aimed : Aimed s)
    (attached : listener ∈ s.connection.listeners) (sink : listener.sink = .watcher index)
    (found : s.watchers[index]? = some watcher) :
    watcher.request.address = listener.address := by
  obtain ⟨target, there, placed⟩ := aimed.listener listener attached index sink
  obtain rfl : target = watcher := Option.some.inj (there.symm.trans found)
  exact placed

theorem aimed_start (clock allowedSilence : Int) (commitment : Commitment) :
    Aimed (.start clock allowedSilence commitment : Session α) where
  listener := fun listener attached => by cases attached
  unheard := fun _ _ => rfl

theorem Move.aimed (move : Move s next) (aimed : Aimed s) : Aimed next where
  listener := by
    intro listener attached index sink
    have target : ∃ watcher, s.watchers[index]? = some watcher ∧
        watcher.request.address = listener.address := by
      rcases move.listener_cases attached with old | fresh
      · exact aimed.listener listener old index sink
      · exact fresh index sink
    obtain ⟨watcher, found, address⟩ := target
    obtain ⟨after, there, fate⟩ := move.fate found
    exact ⟨after, there, by rw [fate.request, address]⟩
  unheard := by
    intro index outside
    have grown : s.watchers.size ≤ next.watchers.size := Moves.size_le (.single move)
    have before := aimed.unheard index (Nat.le_trans grown outside)
    obtain ⟨added, equal, adds⟩ := move.adds
    rw [equal, heardBy_append, before, List.nil_append]
    cases adds with
    | nothing => rfl
    | silent event silent => simp [heardBy, silent index]
    | heard version listener attached =>
      have elsewhere : listener.sink ≠ .watcher index := by
        intro sink
        obtain ⟨watcher, found, _⟩ := aimed.listener listener attached index sink
        exact absurd (lt_size_of_found found) (Nat.not_lt.2 (Nat.le_trans grown outside))
      simp [heardBy, Event.heard?, elsewhere]

theorem Moves.aimed (moves : Moves s next) (aimed : Aimed s) : Aimed next := by
  induction moves with
  | refl => exact aimed
  | tail _ move ih => exact move.aimed ih

end Session
end SlabBook

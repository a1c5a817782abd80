import SlabBook.Proofs.Deliveries
import SlabBook.Proofs.History
import SlabBook.Proofs.Runs

/-!
# Lives of watchers

Every watcher of a session has a history, whose notifications are the deliveries to it and whose
readings were returned at its address.  Apart from its own start nothing gives a watcher a reading,
so that its history is then what is delivered to it, until it is disposed.

* `Moves.allLived` — each watcher has a history at every moment;
* `Onward` — what an operation comes to for a watcher that it does not start.
-/

namespace SlabBook

variable {α : Type}

namespace Session

variable {s next : Session α} {index : Nat} {watcher after : Watcher α}
  {history more : List (Occurrence PayloadError)}

/-- The history of a watcher.  It was notified of what was delivered to it, in this order, and has
read what was returned at its address. -/
structure Lived (s : Session α) (index : Nat) (watcher : Watcher α)
    (history : List (Occurrence PayloadError)) : Prop where
  found : s.watchers[index]? = some watcher
  past : Watch.History watcher.request.format.decode watcher.watch history
  notices : history.filterMap Occurrence.notice? = heardBy index s.events
  readings : ∀ account ∈ history.filterMap Occurrence.reading?,
    .returned watcher.request.address (some account) ∈ s.events

/-- What a watcher went through from one moment to another. -/
structure Passage (index : Nat) (s next : Session α) (watcher after : Watcher α)
    (more : List (Occurrence PayloadError)) : Prop where
  found : next.watchers[index]? = some after
  request : after.request = watcher.request
  course : Watch.Course watcher.request.format.decode watcher.watch more after.watch
  grown : s.events <+: next.events
  notices : heardBy index next.events = heardBy index s.events ++ more.filterMap Occurrence.notice?
  readings : ∀ account ∈ more.filterMap Occurrence.reading?,
    .returned watcher.request.address (some account) ∈ next.events

theorem Lived.passage (lived : Lived s index watcher history)
    (passage : Passage index s next watcher after more) :
    Lived next index after (history ++ more) where
  found := passage.found
  past := by
    rw [passage.request]
    exact lived.past.course passage.course
  notices := by rw [List.filterMap_append, lived.notices, passage.notices]
  readings := by
    intro account member
    rw [passage.request]
    rw [List.filterMap_append] at member
    rcases List.mem_append.1 member with old | fresh
    · exact passage.grown.subset (lived.readings account old)
    · exact passage.readings account fresh

theorem Passage.trans {between : Session α} {halfway : Watcher α}
    {earlier later : List (Occurrence PayloadError)}
    (first : Passage index s between watcher halfway earlier)
    (second : Passage index between next halfway after later) :
    Passage index s next watcher after (earlier ++ later) where
  found := second.found
  request := second.request.trans first.request
  course := first.course.trans (first.request ▸ second.course)
  grown := first.grown.trans second.grown
  notices := by rw [second.notices, first.notices, List.filterMap_append, List.append_assoc]
  readings := by
    intro account member
    rw [List.filterMap_append] at member
    rcases List.mem_append.1 member with old | fresh
    · exact second.grown.subset (first.readings account old)
    · exact first.request ▸ second.readings account fresh

/-! ## Every watcher has a history -/

theorem Move.passage (move : Move s next) (found : s.watchers[index]? = some watcher) :
    ∃ after more, Passage index s next watcher after more := by
  obtain ⟨after, there, fate⟩ := move.fate found
  have grown := move.events_prefix
  cases fate with
  | kept request watch silent =>
    rcases watch with same | disposed
    · exact ⟨after, [], there, request, same ▸ .rest, grown, by simpa using silent, by simp⟩
    · exact ⟨after, [⟨.disposal, .ignored⟩], there, request,
        disposed ▸ Watch.Meets.disposal.course, grown, silent.trans (List.append_nil _).symm,
        by simp [Occurrence.reading?]⟩
  | heard version listener attached sink told =>
    refine ⟨_, _, there, rfl, (Watch.Meets.notified s.clock _).course, grown, ?_,
      by simp [Occurrence.reading?]⟩
    rw [told, heardBy_append]
    simp [heardBy, Event.heard?, sink, Occurrence.notice?]
  | reread account returned silent =>
    refine ⟨_, _, there, rfl, (Watch.Meets.reread s.clock account).course, grown,
      silent.trans (List.append_nil _).symm, ?_⟩
    intro read member
    obtain rfl : read = account := by simpa [Occurrence.reading?] using member
    exact grown.subset returned

/-- A watcher that was just enlisted has the one reading behind it. -/
theorem lived_first {account : Account} {value : Snapshot α} {now : Int}
    (found : s.watchers[index]? = some watcher)
    (decoded : watcher.request.format.decode account = .ok value)
    (watch : watcher.watch = .seed value account.slot now)
    (unheard : heardBy index s.events = [])
    (returned : .returned watcher.request.address (some account) ∈ s.events) :
    Lived s index watcher [⟨.first account, .applied⟩] where
  found := found
  past := watch ▸ .first now decoded
  notices := unheard.symm
  readings := by
    intro read member
    obtain rfl : read = account := by simpa [Occurrence.reading?] using member
    exact returned

/-- Each watcher has a history. -/
def AllLived (s : Session α) : Prop :=
  ∀ index watcher, s.watchers[index]? = some watcher → ∃ history, Lived s index watcher history

theorem Move.allLived (move : Move s next) (aimed : Aimed s) (all : AllLived s) :
    AllLived next := by
  intro index watcher found
  cases before : s.watchers[index]? with
  | some old =>
    obtain ⟨history, lived⟩ := all index old before
    obtain ⟨after, more, passage⟩ := move.passage before
    obtain rfl : after = watcher := Option.some.inj (passage.found.symm.trans found)
    exact ⟨_, lived.passage passage⟩
  | none =>
    obtain ⟨same, value, account, returned, decoded, watch⟩ := move.born before found
    have unheard : heardBy index next.events = [] := by
      rw [same]
      exact aimed.unheard index (Array.getElem?_eq_none_iff.1 before)
    exact ⟨_, lived_first found decoded watch unheard (same ▸ returned)⟩

theorem Moves.allLived (moves : Moves s next) (aimed : Aimed s) (all : AllLived s) :
    AllLived next := by
  induction moves with
  | refl => exact all
  | tail before move ih => exact move.allLived (Moves.aimed before aimed) ih

/-! ## What comes after a start takes no reading -/

/-- What a watcher goes through, it goes through without a reading. -/
def Onward (index : Nat) (s next : Session α) : Prop :=
  ∀ watcher, s.watchers[index]? = some watcher →
    ∃ after more, Passage index s next watcher after more ∧
      more.filterMap Occurrence.reading? = []

theorem Onward.refl (index : Nat) (s : Session α) : Onward index s s := fun watcher found =>
  ⟨watcher, [], ⟨found, rfl, .rest, List.prefix_refl _, by simp, by simp⟩, rfl⟩

theorem Onward.trans {between : Session α} (first : Onward index s between)
    (second : Onward index between next) : Onward index s next := by
  intro watcher found
  obtain ⟨halfway, earlier, passage, unread⟩ := first watcher found
  obtain ⟨after, later, passage_too, unread_too⟩ := second halfway passage.found
  refine ⟨after, _, passage.trans passage_too, ?_⟩
  rw [List.filterMap_append, unread, unread_too, List.append_nil]

theorem heardBy_eq_nil {added : List Event} (silent : ∀ event ∈ added, event.heard? index = none) :
    heardBy index added = [] :=
  List.filterMap_eq_nil_iff.2 silent

/-- The watch is kept or disposed, and hears of nothing. -/
theorem onward_of_kept (added : List Event) (grown : next.events = s.events ++ added)
    (silent : ∀ event ∈ added, event.heard? index = none)
    (kept : ∀ watcher, s.watchers[index]? = some watcher → ∃ after,
      next.watchers[index]? = some after ∧ after.request = watcher.request ∧
        (after.watch = watcher.watch ∨ after.watch = watcher.watch.dispose)) :
    Onward index s next := by
  intro watcher found
  obtain ⟨after, there, request, watch⟩ := kept watcher found
  have unheard : heardBy index next.events = heardBy index s.events := by
    rw [grown, heardBy_append, heardBy_eq_nil silent, List.append_nil]
  have longer : s.events <+: next.events := grown ▸ List.prefix_append _ _
  rcases watch with same | disposed
  · exact ⟨after, [], ⟨there, request, same ▸ .rest, longer, by simpa using unheard, by simp⟩, rfl⟩
  · exact ⟨after, [⟨.disposal, .ignored⟩], ⟨there, request,
      disposed ▸ Watch.Meets.disposal.course, longer, unheard.trans (List.append_nil _).symm,
      by simp [Occurrence.reading?]⟩, rfl⟩

theorem onward_of_same (added : List Event) (grown : next.events = s.events ++ added)
    (silent : ∀ event ∈ added, event.heard? index = none)
    (same : next.watchers[index]? = s.watchers[index]?) : Onward index s next :=
  onward_of_kept added grown silent fun watcher found => ⟨watcher, same.trans found, rfl, .inl rfl⟩

/-- Neither the watchers nor the trace change. -/
theorem onward_of_frame (trace : next.trace = s.trace) (watchers : next.watchers = s.watchers) :
    Onward index s next :=
  onward_of_same [] (by rw [events, trace, List.append_nil, events]) (by simp)
    (by rw [watchers])

theorem onward_setWatcher {position : Nat} {there changed : Watcher α}
    (found : s.watchers[position]? = some there) (request : changed.request = there.request)
    (watch : changed.watch = there.watch ∨ changed.watch = there.watch.dispose) :
    Onward index s (s.setWatcher position changed) := by
  refine onward_of_kept [] (by simp [events, setWatcher]) (by simp) ?_
  intro watcher known
  rw [getElem?_setWatcher]
  by_cases same : position = index
  · subst same
    obtain rfl : there = watcher := Option.some.inj (found.symm.trans known)
    exact ⟨changed, by rw [if_pos rfl, if_pos (lt_size_of_found found)], request, watch⟩
  · exact ⟨watcher, by rw [if_neg same, known], rfl, .inl rfl⟩

theorem heard?_of_said {request : WatchRequest α} {account : Account} {listener : Listener}
    {reaction : Reaction PayloadError} (index : Nat) :
    ∀ event ∈ request.remarks account reaction ++ listener.thrown (request.verdict reaction),
      event.heard? index = none :=
  fun event member => Event.heard?_of_plain (plain_of_said event member) index

theorem events_setWatcher (s : Session α) (index : Nat) (watcher : Watcher α) :
    (s.setWatcher index watcher).events = s.events := rfl

/-- The watcher that a delivery goes to. -/
theorem onward_deliver_self {listener : Listener} (sink : listener.sink = .watcher index)
    (version : Stored) : Onward index s (s.deliver version listener) := by
  intro watcher found
  let account := version.account listener.address
  let told := watcher.watch.notify watcher.request.format.decode s.clock account
  have events : (s.deliver version listener).events = s.events ++
      .delivered s.clock listener account :: (watcher.request.remarks account told.2 ++
        listener.thrown (watcher.request.verdict told.2)) := by
    rw [deliver_eq sink found, events_recordAll, events_setWatcher, pingWatcher_events]
  refine ⟨{ watcher with watch := told.1 }, [⟨.notified account, told.2⟩], ⟨?_, rfl,
    (Watch.Meets.notified s.clock account).course, ⟨_, events.symm⟩, ?_,
    by simp [Occurrence.reading?]⟩, rfl⟩
  · rw [deliver_eq sink found]
    show ((s.pingWatcher watcher).setWatcher index _).watchers[index]? = _
    rw [getElem?_setWatcher, if_pos rfl, pingWatcher_watchers, if_pos (lt_size_of_found found)]
  · have heard : (Event.delivered s.clock listener account).heard? index = some account := by
      rw [Event.heard?, if_pos sink]
    have alone : heardBy index (.delivered s.clock listener account ::
        (watcher.request.remarks account told.2 ++
          listener.thrown (watcher.request.verdict told.2))) = [account] := by
      rw [heardBy, List.filterMap_cons_some heard, ← heardBy, heardBy_eq_nil (heard?_of_said index)]
    rw [events, heardBy_append, alone]
    rfl

theorem onward_deliver (version : Stored) (listener : Listener) :
    Onward index s (s.deliver version listener) := by
  by_cases self : listener.sink = .watcher index
  · exact onward_deliver_self self version
  have unheard : (Event.delivered s.clock listener
      (version.account listener.address)).heard? index = none := by
    rw [Event.heard?, if_neg self]
  rcases s.deliver_cases version listener with ⟨position, watcher, sink, found⟩ | ⟨_, recorded⟩
  · have different : position ≠ index := fun same => self (same ▸ sink)
    refine onward_of_same _ (by rw [deliver_eq sink found, events_recordAll, events_setWatcher,
      pingWatcher_events]) (List.forall_mem_cons.2 ⟨unheard, heard?_of_said index⟩) ?_
    rw [deliver_eq sink found]
    show ((s.pingWatcher watcher).setWatcher position _).watchers[index]? = _
    rw [getElem?_setWatcher, if_neg different, pingWatcher_watchers]
  · rw [recorded]
    exact onward_of_same _ (events_record s _) (by simpa using unheard) rfl

theorem onward_record {event : Event} (unheard : event.heard? index = none) :
    Onward index s (s.record event) :=
  onward_of_same [event] (events_record s event) (by simpa using unheard) rfl

/-! ## Phases -/

variable {allowed : Change → Prop} {scope : Scope}

theorem CallPhase.onward (phase : CallPhase allowed s next) : Onward index s next := by
  cases phase with
  | change change happens =>
    have recorded : Onward index s ((s.record (.changed change)).keep change) :=
      onward_of_same [.changed change] (events_changed s change) (by simp [Event.heard?])
        (by rw [keep_watchers]; rfl)
    exact change_invariant change recorded fun now version listener _ before =>
      before.trans (onward_deliver version listener)
  | note event plain => exact onward_record (Event.heard?_of_plain plain index)
  | answer address found current => exact onward_record rfl
  | takePlan kind => exact onward_of_frame rfl rfl

theorem CallPhases.onward (phases : CallPhases allowed s next) : Onward index s next := by
  induction phases with
  | refl => exact .refl index s
  | tail _ phase ih => exact ih.trans phase.onward

theorem onward_dropFeed (feed : Option Nat) : Onward index s (s.dropFeed feed) := by
  cases feed <;> exact onward_of_frame rfl rfl

theorem onward_retire (position : Nat) : Onward index s (s.retire position) := by
  unfold retire
  split
  · exact .refl index s
  · rename_i watcher found
    have kept : (s.dropFeed watcher.feed).watchers[position]? = some watcher := by
      cases watcher.feed <;> exact found
    exact (onward_dropFeed watcher.feed).trans (onward_setWatcher kept rfl (.inr rfl))

theorem onward_holdListener (position id : Nat) :
    Onward index s (s.holdListener position id) := by
  unfold holdListener
  split
  · exact .refl index s
  · rename_i watcher found
    exact onward_setWatcher found rfl (.inl rfl)

theorem onward_setDisposal (position : Nat) (disposal : Disposal) :
    Onward index s (s.setDisposal position disposal) := by
  unfold setDisposal
  split
  · exact .refl index s
  · rename_i watcher found
    exact onward_setWatcher found rfl (.inl rfl)

theorem onward_log (options : WatchOptions) (entry : LogRecord) :
    Onward index s (s.log options entry) :=
  (@callPhases_log _ s (fun _ => True) options entry).onward

theorem onward_enlist (request : WatchRequest α) (value : Snapshot α) (slot : Option Int) :
    Onward index s (s.enlist request value slot).1 := by
  refine onward_of_kept [] (by simp [events, enlist]) (by simp) fun watcher found => ?_
  exact ⟨watcher, by rw [getElem?_enlist _ _ _ _ (lt_size_of_found found), found], rfl, .inl rfl⟩

theorem onward_attachListener (address : Address) (sink : Sink) :
    Onward index s (s.attachListener address sink) :=
  onward_of_same _ (events_attachListener s address sink) (by simp [Event.heard?]) rfl

theorem heard?_of_objections {request : WatchRequest α} {account : Account}
    {reaction : Reaction PayloadError} (index : Nat) :
    ∀ event ∈ objections request account reaction, event.heard? index = none :=
  fun _ member => Event.heard?_of_plain (plain_of_mem_objections member) index

/-- The second reading of one watcher is nothing to another. -/
theorem onward_takeUp {position : Nat} (different : position ≠ index) (request : WatchRequest α)
    (second : Option Account) : Onward index s (s.takeUp position request second).1 := by
  unfold takeUp
  split
  · exact .refl index s
  · split
    · exact .refl index s
    · refine onward_of_same _ (by rw [events_recordAll, events_setWatcher])
        (heard?_of_objections index) ?_
      show (s.setWatcher position _).watchers[index]? = _
      rw [getElem?_setWatcher, if_neg different]

theorem Left.onward {position : Nat} (left : Left s position next) : Onward index s next := by
  have retired (disposal : Disposal) :
      Onward index s ((s.retire position).setDisposal position disposal) :=
    (onward_retire position).trans (onward_setDisposal position disposal)
  cases left with
  | nothing => exact .refl index s
  | asked => exact (retired _).trans (onward_record rfl)
  | unheard => exact retired _

theorem Finished.onward {position : Nat} (finished : Finished s position next) :
    Onward index s next := by
  cases finished with
  | nothing => exact .refl index s
  | failed => exact onward_setDisposal position _
  | @removed removed watcher id plan found listener due outcome removal =>
    have removing : Onward index s removed := by
      rcases removal with rfl | rfl
      · exact .refl index _
      · exact onward_of_frame rfl rfl
    exact (removing.trans (onward_setDisposal position _)).trans (onward_log _ _)

/-- An operation is nothing but notifications, and perhaps the disposal, to a watcher that it does not
start. -/
theorem Phase.onward (phase : Phase scope s next) (old : ¬ scope.fresh index) :
    Onward index s next := by
  cases phase with
  | call phase => exact phase.onward
  | attach address sink aims fresh => exact onward_attachListener address sink
  | ask id loose => exact onward_record rfl
  | detach id loose => exact onward_of_frame rfl rfl
  | enlist request value account returned decoded fresh => exact onward_enlist request value _
  | hold position id fresh loose => exact onward_holdListener position id
  | takeUp position request second fresh awaits returned =>
    exact onward_takeUp (fun same : position = index => old (same ▸ fresh)) request second
  | retire position fresh => exact onward_retire position
  | leave position => exact (s.leave_cases position).onward
  | finish position => exact (s.finish_cases position).onward

theorem Phases.onward (phases : Phases scope s next) (old : ¬ scope.fresh index) :
    Onward index s next := by
  induction phases with
  | refl => exact .refl index s
  | tail _ phase ih => exact ih.trans (phase.onward old)

theorem Operates.onward {calls : Bool} {own : List Nat} (operates : Operates scope calls own s next)
    (old : ¬ scope.fresh index) : Onward index s next := by
  cases operates with
  | phases phases => exact phases.onward old
  | plan kind plan planned => exact onward_of_frame rfl rfl
  | register | ping | drop => exact onward_of_frame rfl rfl

/-- Whatever an operation may touch that starts no watcher which is there before. -/
def Scope.beyond (s : Session α) : Scope :=
  ⟨fun _ => True, fun position => s.watchers.size ≤ position, fun _ => True⟩

theorem admits_beyond (s : Session α) : Admits (.beyond s) s :=
  ⟨s.connection.expects_any, fun _ => id, fun _ _ => trivial⟩

theorem not_fresh_beyond (found : s.watchers[index]? = some watcher) :
    ¬ (Scope.beyond s).fresh index :=
  Nat.not_le.2 (lt_size_of_found found)

/-- A start is nothing to the watchers that are there before it. -/
theorem onward_watchAccount {request : WatchRequest α} {outcome : Except Fault Nat}
    (result : s.watchAccount request = (next, outcome)) : Onward index s next :=
  fun watcher found => (phases_watchAccount (admits_beyond s) result).onward
    (not_fresh_beyond found) watcher found

end Session

open Session

/-- A step gives no reading to a watcher that is there before it. -/
theorem Script.onward_step {index : Nat} (script : Script α) (step : Step α) :
    Onward index script.session (script.step step).1.session :=
  fun watcher found => (operates_step (admits_beyond script.session) step.allows_any
    fun _ _ => trivial).onward (not_fresh_beyond found) watcher found

theorem Script.onward_run {index : Nat} (script : Script α) (steps : List (Step α)) :
    Onward index script.session (script.run steps).session := by
  induction steps generalizing script with
  | nil => exact .refl index _
  | cons step rest ih => exact (onward_step script step).trans (ih _)

theorem Script.Reached.allLived {script : Script α} (reached : script.Reached) :
    AllLived script.session := by
  have both := @Reached.invariant α (fun s => Aimed s ∧ AllLived s) script reached
    (fun _ _ _ => ⟨aimed_start _ _ _, fun index watcher none => by cases none⟩)
    (fun _ _ move before => ⟨move.aimed before.1, move.allLived before.1 before.2⟩)
  exact both.2

end SlabBook

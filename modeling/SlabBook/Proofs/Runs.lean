import SlabBook.Proofs.Phases
import SlabBook.Script

/-!
# Runs

Every phase of an operation, and so every step of a script, is a row of moves.  A successful start is
taken apart further: a lookup, the enlisting, the attachment of the listener and a second lookup, in
this order, with moves of any kind in between.

* `Phases.moves`, `Script.operates_step` — phases are rows of moves, and what a step of a script does;
* `started_of_ok`, `started_of_book` — starts that succeed;
* `Script.Reached.invariant` — what holds at every start and survives every move holds throughout.
-/

namespace SlabBook

variable {α : Type}

namespace Session

variable {s next : Session α}

/-! ## Moves of a phase -/

theorem moves_of_frame (trace : next.trace = s.trace) (watchers : next.watchers = s.watchers)
    (connection : next.connection = s.connection) : Moves s next :=
  .single (.frame trace watchers (by rw [connection]) (by rw [connection]; exact fun _ => id))

theorem moves_pingFeed (feed : Option Nat) : Moves s (s.pingFeed feed) := by
  cases feed <;> exact moves_of_frame rfl rfl rfl

theorem moves_dropFeed (feed : Option Nat) : Moves s (s.dropFeed feed) := by
  cases feed <;> exact moves_of_frame rfl rfl rfl

theorem moves_recordAll {events : List Event} (plain : ∀ event ∈ events, event.Plain) :
    Moves s (s.recordAll events) := by
  induction events generalizing s with
  | nil => rw [recordAll_nil]
  | cons event rest ih =>
    rw [← recordAll_cons]
    exact .head (.note s event (Event.quiet_of_plain (plain event (List.mem_cons_self ..))))
      (ih fun other member => plain other (List.mem_cons_of_mem _ member))

theorem moves_log (options : WatchOptions) (entry : LogRecord) : Moves s (s.log options entry) := by
  rw [log_eq]
  exact moves_recordAll fun _ => plain_of_mem_noted

theorem moves_pingWatcher (watcher : Watcher α) : Moves s (s.pingWatcher watcher) := by
  obtain ⟨feed, pinged⟩ := s.pingWatcher_eq_pingFeed watcher
  rw [pinged]
  exact moves_pingFeed feed

/-- What is pinged, logged and reported comes after the watch has been told. -/
theorem moves_deliver (version : Stored) (listener : Listener)
    (attached : listener ∈ s.connection.listeners) : Moves s (s.deliver version listener) := by
  have heard : Moves s (s.hear version listener) := .single (.hear s version listener attached)
  rcases s.deliver_cases version listener with ⟨index, watcher, sink, found⟩ | ⟨nobody, recorded⟩
  · have there : (s.record (.delivered s.clock listener
        (version.account listener.address))).watchers[index]? = some watcher := found
    have pinged : (((s.pingWatcher watcher).setWatcher index { watcher with
        watch := (watcher.watch.notify watcher.request.format.decode s.clock
          (version.account listener.address)).1 }).record
        (.delivered s.clock listener (version.account listener.address))) =
          (s.hear version listener).pingWatcher watcher := by
      simp only [Session.hear, sink, tell, there]
      unfold pingWatcher
      split
      · rfl
      · cases watcher.feed <;> rfl
    rw [deliver_eq sink found]
    dsimp only
    rw [← recordAll_cons, pinged]
    exact (heard.trans (moves_pingWatcher watcher)).trans (moves_recordAll plain_of_said)
  · have same : s.hear version listener = s.deliver version listener := by
      rw [recorded]
      unfold Session.hear
      cases sink : listener.sink with
      | subscription _ => rfl
      | watcher index =>
        have absent : (s.record (.delivered s.clock listener
            (version.account listener.address))).watchers[index]? = none := nobody index sink
        simp only [tell, absent]
    rwa [← same]

theorem moves_change (change : Change) : Moves s (s.change change) :=
  change_invariant change (.single (.change s change)) fun _ version listener attached before =>
    before.trans (moves_deliver version listener attached)

theorem CallPhase.moves {allowed : Change → Prop} (phase : CallPhase allowed s next) :
    Moves s next := by
  cases phase with
  | change change happens => exact moves_change change
  | note event plain => exact .single (.note s event (Event.quiet_of_plain plain))
  | answer address found current => exact .single (.answer s address found current)
  | takePlan kind => exact .single (.frame rfl rfl rfl fun _ => id)

theorem CallPhases.moves {allowed : Change → Prop} (phases : CallPhases allowed s next) :
    Moves s next := by
  induction phases with
  | refl => exact .refl
  | tail _ phase ih => exact ih.trans phase.moves

variable {index : Nat} {watcher : Watcher α} {request : WatchRequest α}

theorem moves_retire (index : Nat) : Moves s (s.retire index) := by
  unfold retire
  split
  · exact .refl
  · rename_i watcher found
    refine (moves_dropFeed watcher.feed).trans (.single (.tend _ index watcher _ ?_ rfl (.inr rfl)))
    cases watcher.feed <;> exact found

theorem moves_holdListener (index id : Nat) : Moves s (s.holdListener index id) := by
  unfold holdListener
  split
  · exact .refl
  · rename_i watcher found
    exact .single (.tend s index watcher _ found rfl (.inl rfl))

theorem moves_setDisposal (index : Nat) (disposal : Disposal) :
    Moves s (s.setDisposal index disposal) := by
  unfold setDisposal
  split
  · exact .refl
  · rename_i watcher found
    exact .single (.tend s index watcher _ found rfl (.inl rfl))

theorem moves_detach (id : Nat) :
    Moves s { s with connection := s.connection.detach id } :=
  .single (.frame rfl rfl rfl fun _ member => (List.mem_filter.1 member).1)

/-- A second reading, once it is fetched. -/
theorem moves_takeUp (awaits : s.Awaits index request) {second : Option Account}
    (returned : ∀ account, second = some account →
      .returned request.address (some account) ∈ s.events) :
    Moves s (s.takeUp index request second).1 := by
  obtain ⟨watcher, found, rfl, _⟩ := awaits
  cases second with
  | none => exact .refl
  | some account =>
    have read : Move s (s.setWatcher index _) :=
      .reread s index watcher account found (returned account rfl)
    simp only [takeUp, found]
    exact .head read (moves_recordAll fun _ => plain_of_mem_objections)

theorem Left.moves (left : Left s index next) : Moves s next := by
  have retired (disposal : Disposal) : Moves s ((s.retire index).setDisposal index disposal) :=
    (moves_retire index).trans (moves_setDisposal index disposal)
  cases left with
  | nothing => exact .refl
  | asked => exact (retired _).tail (.note _ _ trivial)
  | unheard => exact retired _

theorem Finished.moves (finished : Finished s index next) : Moves s next := by
  cases finished with
  | nothing => exact .refl
  | failed => exact moves_setDisposal index _
  | removed found listener due outcome removal =>
    refine Relation.ReflTransGen.trans ?_ ((moves_setDisposal index _).trans (moves_log _ _))
    rcases removal with rfl | rfl
    · exact .refl
    · exact moves_detach _

theorem Phase.moves {scope : Scope} (phase : Phase scope s next) : Moves s next := by
  cases phase with
  | call phase => exact phase.moves
  | attach address sink aims fresh => exact .single (.attach s address sink aims)
  | ask id loose => exact .single (.note s _ trivial)
  | detach id loose => exact moves_detach id
  | enlist request value account returned decoded fresh =>
    exact .single (.enlist s request value account returned decoded)
  | hold index id fresh loose => exact moves_holdListener index id
  | takeUp index request second fresh awaits returned => exact moves_takeUp awaits returned
  | retire index fresh => exact moves_retire index
  | leave index => exact (s.leave_cases index).moves
  | finish index => exact (s.finish_cases index).moves

theorem Phases.moves {scope : Scope} (phases : Phases scope s next) : Moves s next := by
  induction phases with
  | refl => exact .refl
  | tail _ phase ih => exact ih.trans phase.moves

theorem Moves.aims {address : Address} {sink : Sink} (moves : Moves s next)
    (aims : s.Aims address sink) : next.Aims address sink := by
  intro other aim
  obtain ⟨watcher, found, placed⟩ := aims other aim
  obtain ⟨later, there, same⟩ := Moves.request moves found
  exact ⟨later, there, by rw [same, placed]⟩

/-! ## Starts that succeed -/

/-- A second reading: a lookup that finds nothing, or one whose account the watcher takes up. -/
inductive CaughtUp (s : Session α) (index : Nat) (request : WatchRequest α) : Session α → Prop
  | missing {looking next : Session α} (before : Moves s looking)
      (absent : looking.connection.find? request.address = none)
      (after : Moves (looking.record (.returned request.address none)) next) :
      CaughtUp s index request next
  | reread {looking answered next : Session α} {version : Stored} {watcher : Watcher α}
      (before : Moves s looking)
      (current : looking.connection.find? request.address = some version)
      (answering : Moves
        (looking.record (.returned request.address (some (version.account request.address))))
        answered)
      (found : answered.watchers[index]? = some watcher) (requested : watcher.request = request)
      (after : Moves (answered.setWatcher index
        { watcher with
          watch := (watcher.watch.catchUp watcher.request.format.decode answered.clock
            (version.account request.address)).1 }) next) :
      CaughtUp s index request next

theorem caughtUp_of_ok (awaits : s.Awaits index request)
    (result : s.catchUp index request = (next, .ok ())) : CaughtUp s index request next := by
  rcases fetched : s.fetch request.address with ⟨answered, lookup⟩
  rcases fetch_phases s.connection.expects_any fetched with
    ⟨fault, rfl, _⟩ | ⟨looking, second, rfl, before, current, after⟩
  · simp only [catchUp, fetched] at result
    cases result
  rw [catchUp_of_fetched fetched] at result
  have taken : (answered.takeUp index request second).1 = next := congrArg Prod.fst result
  cases held : looking.connection.find? request.address with
  | none =>
    rw [held, Option.map_none] at current
    subst current
    subst taken
    exact .missing before.moves held after.moves
  | some version =>
    rw [held, Option.map_some] at current
    subst current
    obtain ⟨watcher, found, rfl, _⟩ := after.awaits (before.awaits awaits)
    refine .reread before.moves held after.moves found rfl ?_
    simp only [takeUp, found] at taken
    subst taken
    exact moves_recordAll fun _ => plain_of_mem_objections

/-- A start from its enlisting on: the listener is attached and the second reading taken. -/
inductive Attached (s : Session α) (index : Nat) (request : WatchRequest α) : Session α → Prop
  | intro {asking held reread next : Session α} (before : Moves s asking)
      (attaching : Moves (asking.attachListener request.address (.watcher index)) held)
      (caught : CaughtUp held index request reread) (after : Moves reread next) :
      Attached s index request next

theorem attached_of_ok (awaits : s.Awaits index request)
    (result : s.attach index request = (next, .ok ())) : Attached s index request next := by
  cases attach_outcome result with
  | @started held after id subscribed caught =>
    rcases subscribe_phases s.connection.expects_any subscribed with
      ⟨_, none, _⟩ | ⟨asking, _, before, attaching⟩
    · cases none
    have attached : (asking.attachListener request.address (.watcher index)).Awaits index request :=
      before.awaits awaits
    exact .intro before.moves (attaching.moves.trans (moves_holdListener index id))
      (caughtUp_of_ok ((attaching.awaits attached).holdListener id) caught) (moves_log _ _)

/-- A whole start: a lookup that finds an account that decodes, the enlisting, and the rest. -/
inductive Started (s : Session α) (request : WatchRequest α) (index : Nat) : Session α → Prop
  | intro {looked next : Session α} {value : Snapshot α} {account : Account} (before : Moves s looked)
      (returned : .returned request.address (some account) ∈ looked.events)
      (decoded : request.format.decode account = .ok value) (fresh : index = looked.watchers.size)
      (attached : Attached (looked.enlist request value account.slot).1 index request next) :
      Started s request index next

theorem awaits_enlisted (request : WatchRequest α) (value : Snapshot α) (slot : Option Int) :
    (s.enlist request value slot).1.Awaits s.watchers.size request :=
  ⟨_, enlist_found request value slot, rfl, rfl⟩

theorem started_of_ok (result : s.watchAccount request = (next, .ok index)) :
    Started s request index next := by
  cases watchAccount_outcome result with
  | @started looked _ first value look decoded attaching =>
    exact .intro (callPhases_fetch s.connection.expects_any look).moves (returned_of_fetch look)
      decoded rfl (attached_of_ok (awaits_enlisted request value first.slot) attaching)

/-- A book that starts has started its bids and then its asks. -/
theorem started_of_book {request : BookRequest} {watchers : BookWatchers}
    (result : s.watchBook request = (next, .ok watchers)) :
    ∃ between,
      Started s (.side .bids request.bids request.market request.capacity request.options)
        watchers.bids between ∧
      Started between (.side .asks request.asks request.market request.capacity request.options)
        watchers.asks next := by
  cases watchBook_outcome result with
  | both first second => exact ⟨_, started_of_ok first, started_of_ok second⟩

theorem CaughtUp.moves (caught : CaughtUp s index request next) : Moves s next := by
  cases caught with
  | missing before absent after =>
    refine (before.trans (.single (.answer _ request.address none ?_))).trans after
    rw [absent, Option.map_none]
  | @reread looking answered _ version watcher before current answering found requested after =>
    have answer : Move looking
        (looking.record (.returned request.address (some (version.account request.address)))) :=
      .answer looking request.address _ (by rw [current, Option.map_some])
    have returned : .returned watcher.request.address (some (version.account request.address)) ∈
        answered.events := by
      rw [requested]
      exact answering.mem_events (by simp)
    exact (((before.tail answer).trans answering).tail
      (.reread answered index watcher _ found returned)).trans after

theorem Attached.moves (attached : Attached s index request next)
    (aims : s.Aims request.address (.watcher index)) : Moves s next := by
  cases attached with
  | @intro asking held reread _ before attaching caught after =>
    exact (((before.tail (.attach asking request.address _ (Moves.aims before aims))).trans
      attaching).trans caught.moves).trans after

theorem Started.moves (started : Started s request index next) : Moves s next := by
  cases started with
  | @intro looked _ value account before returned decoded fresh attached =>
    subst fresh
    exact (before.tail (.enlist looked request value account returned decoded)).trans
      (attached.moves (awaits_enlisted request value account.slot).aims)

/-- The watcher of a start is there at its end. -/
theorem Started.watcher_found (started : Started s request index next) :
    ∃ watcher, next.watchers[index]? = some watcher ∧ watcher.request = request := by
  cases started with
  | @intro looked _ value account before returned decoded fresh attached =>
    subst fresh
    have awaits := awaits_enlisted (s := looked) request value account.slot
    obtain ⟨after, there, same⟩ := (attached.moves awaits.aims).request
      (enlist_found request value account.slot)
    exact ⟨after, there, same⟩

/-! ## Operations -/

/-- Everything that an operation may touch. -/
def Scope.any : Scope := ⟨fun _ => True, fun _ => True, fun _ => True⟩

theorem admits_any (s : Session α) : Admits .any s :=
  ⟨s.connection.expects_any, fun _ _ => trivial, fun _ _ => trivial⟩

/-- What a step of a script does to the session: an operation, a plan for the calls to come, or, if the
step is a call on the registry, what the call does to a feed that the script has registered itself. -/
inductive Operates (scope : Scope) (calls : Bool) (own : List Nat) (s : Session α) :
    Session α → Prop
  | phases {next : Session α} (phases : Phases scope s next) : Operates scope calls own s next
  | plan (kind : CallKind) (plan : Plan) (planned : ∀ change ∈ plan.changes, scope.allowed change) :
      Operates scope calls own s { s with connection := s.connection.queue kind plan }
  | register (called : calls = true) (name : String) :
      Operates scope calls own s { s with liveness := s.liveness.register name s.clock }
  | ping (called : calls = true) (id : Nat) (mine : id ∈ own) :
      Operates scope calls own s (s.pingFeed (some id))
  | drop (called : calls = true) (id : Nat) (mine : id ∈ own) :
      Operates scope calls own s (s.dropFeed (some id))

theorem Operates.moves {scope : Scope} {calls : Bool} {own : List Nat}
    (operates : Operates scope calls own s next) : Moves s next := by
  cases operates with
  | phases phases => exact phases.moves
  | plan kind plan planned => exact .single (.frame rfl rfl rfl fun _ => id)
  | register called name => exact moves_of_frame rfl rfl rfl
  | ping called id mine => exact moves_pingFeed _
  | drop called id mine => exact moves_dropFeed _

end Session

/-! ## Steps and scripts -/

namespace Step

/-- The changes that the step puts in the queue are of this kind. -/
def Queues (allowed : Change → Prop) : Step α → Prop
  | .plan _ queued => ∀ made ∈ queued.changes, allowed made
  | _ => True

theorem queues_any (step : Step α) : step.Queues fun _ => True := by
  cases step with
  | plan kind queued => exact fun _ _ => trivial
  | _ => trivial

/-- The changes that come with the step are of this kind. -/
structure Allows (allowed : Change → Prop) (step : Step α) : Prop where
  happens : ∀ made, step = .change made → allowed made
  queues : step.Queues allowed

theorem allows_any (step : Step α) : step.Allows fun _ => True :=
  ⟨fun _ _ => trivial, step.queues_any⟩

/-- The step is a call on the registry, about a feed of the script's own. -/
def callsRegistry : Step α → Bool
  | .register _ | .ping _ | .dropFeed _ => true
  | _ => false

end Step

namespace Script

def events (script : Script α) : List Event := script.session.events

def run (script : Script α) (steps : List (Step α)) : Script α :=
  steps.foldl (fun script step => (script.step step).1) script

/-- The script comes of some steps from a start. -/
def Reached (script : Script α) : Prop :=
  ∃ clock allowedSilence commitment origins steps,
    script = (start (.start clock allowedSilence commitment) origins).run steps

open Session

theorem session_withDisposed (script : Script α) (index : Nat) (part : Option Part) :
    (script.withDisposed index part).session = script.session := by
  unfold withDisposed
  split <;> rfl

/-- The one case analysis of the steps: what each of them does to the session. -/
theorem operates_step {scope : Scope} {script : Script α} {step : Step α}
    (admits : Admits scope script.session) (allows : step.Allows scope.allowed)
    (loose : ∀ id ∈ script.subscriptions.toList, scope.loose id) :
    Operates scope step.callsRegistry script.feeds.toList script.session
      (script.step step).1.session := by
  have plans := admits.plans
  cases step with
  | change change => exact .phases (.single (.call (.change _ change (allows.happens change rfl))))
  | plan kind plan => exact .plan kind plan allows.queues
  | register name => exact .register rfl name
  | ping feed =>
    simp only [Script.step]
    cases mine : script.feeds[feed]? with
    | none => exact .phases .refl
    | some id => exact .ping rfl id (Array.mem_toList_iff.2 (Array.mem_of_getElem? mine))
  | dropFeed feed =>
    simp only [Script.step]
    cases mine : script.feeds[feed]? with
    | none => exact .phases .refl
    | some id => exact .drop rfl id (Array.mem_toList_iff.2 (Array.mem_of_getElem? mine))
  | fetch address =>
    exact .phases (callPhases_fetch plans (Prod.eta (script.session.fetch address)).symm).phases
  | subscribe address =>
    simp only [Script.step, Script.subscribe]
    rcases asked : script.session.subscribe address (.subscription script.subscriptions.size) with
      ⟨next, outcome⟩
    have phases : Phases scope script.session next := phases_subscribe plans
      (fun _ index aim => by cases aim) (fun index aim => by cases aim) asked
    cases outcome <;> exact .phases phases
  | unsubscribe subscription =>
    simp only [Script.step]
    split
    · exact .phases .refl
    · rename_i id mine
      exact .phases (phases_unsubscribe plans
        (loose id (Array.mem_toList_iff.2 (Array.mem_of_getElem? mine))))
  | load address market capacity =>
    have loaded := (callPhases_loadSide plans address market capacity).phases
    simp only [Script.step, Script.load]
    rcases result : script.session.loadSide address market capacity with ⟨next, outcome⟩
    rw [result] at loaded
    cases outcome <;> exact .phases loaded
  | watch request =>
    simp only [Script.step, Script.watch]
    rcases result : script.session.watchAccount request with ⟨next, outcome⟩
    have phases := phases_watchAccount admits result
    cases outcome <;> exact .phases phases
  | watchBook request =>
    simp only [Script.step, Script.watchBook]
    rcases result : script.session.watchBook request with ⟨next, outcome⟩
    have phases := phases_watchBook admits result
    cases outcome <;> exact .phases phases
  | latest handle part =>
    simp only [Script.step]
    split <;> exact .phases .refl
  | dispose handle part =>
    simp only [Script.step, Script.dispose]
    split
    · exact .phases .refl
    · exact .phases (phases_dispose plans _)
  | startDisposal handle part =>
    simp only [Script.step, Script.startDisposal]
    split
    · exact .phases .refl
    · exact .phases (phases_startDisposals plans _)
  | finishDisposal handle part =>
    simp only [Script.step, Script.finishDisposal]
    split
    · exact .phases .refl
    · exact .phases (phases_finishDisposals _)
  | report | size | derive | frozen | isDisposed | request => exact .phases .refl

theorem moves_step (script : Script α) (step : Step α) :
    Moves script.session (script.step step).1.session :=
  (operates_step (admits_any script.session) step.allows_any fun _ _ => trivial).moves

theorem moves_run (script : Script α) (steps : List (Step α)) :
    Moves script.session (script.run steps).session := by
  induction steps generalizing script with
  | nil => exact .refl
  | cons step rest ih => exact (moves_step script step).trans (ih _)

/-- What holds at every start and survives every move holds of every script that is reached. -/
theorem Reached.invariant {holds : Session α → Prop} {script : Script α} (reached : script.Reached)
    (first : ∀ clock allowedSilence commitment, holds (.start clock allowedSilence commitment))
    (kept : ∀ s next, Move s next → holds s → holds next) : holds script.session := by
  obtain ⟨clock, allowedSilence, commitment, origins, steps, rfl⟩ := reached
  have moves := moves_run (start (.start clock allowedSilence commitment) origins) steps
  generalize ((start (.start clock allowedSilence commitment) origins).run steps).session = last
    at moves
  induction moves with
  | refl => exact first clock allowedSilence commitment
  | tail _ move ih => exact kept _ _ move ih

/-! ## Handles -/

theorem source?_addHandle {script : Script α} {index : Nat} {source : Source} (added : Source)
    (known : script.source? index = some source) :
    (script.addHandle added).source? index = some source := by
  obtain ⟨handle, found, same⟩ := Option.map_eq_some_iff.1 known
  have old : index ≠ script.handles.size := Nat.ne_of_lt (Array.getElem?_eq_some_iff.1 found).1
  simp only [source?, addHandle, Array.getElem?_push, if_neg old, found, Option.map_some, same]

theorem source?_addHandle_size (script : Script α) (added : Source) :
    (script.addHandle added).source? script.handles.size = some added := by
  simp [source?, addHandle]

theorem source?_markDisposed (script : Script α) (index queried : Nat) :
    (script.markDisposed index).source? queried = script.source? queried := by
  simp only [source?, markDisposed, Array.getElem?_modify]
  split
  · cases script.handles[queried]? <;> rfl
  · rfl

theorem source?_withDisposed (script : Script α) (index queried : Nat) (part : Option Part) :
    (script.withDisposed index part).source? queried = script.source? queried := by
  unfold withDisposed
  split <;> first | rfl | exact source?_markDisposed script index queried

/-- Disposals leave what handles read. -/
theorem source?_dispose (script : Script α) (index queried : Nat) (part : Option Part) :
    (script.dispose index part).1.source? queried = script.source? queried ∧
      (script.startDisposal index part).source? queried = script.source? queried ∧
      (script.finishDisposal index part).source? queried = script.source? queried := by
  have marked := source?_withDisposed script index queried part
  unfold dispose startDisposal finishDisposal
  split <;> exact ⟨by first | rfl | exact marked, by first | rfl | exact marked, rfl⟩

/-- A handle keeps reading the same source. -/
theorem source?_step {script : Script α} {index : Nat} {source : Source} (step : Step α)
    (known : script.source? index = some source) :
    (script.step step).1.source? index = some source := by
  cases step with
  | subscribe address =>
    simp only [Script.step, Script.subscribe]
    split <;> exact known
  | unsubscribe subscription =>
    simp only [Script.step]
    split <;> exact known
  | load address market capacity =>
    simp only [Script.step, Script.load]
    split <;> exact known
  | watch request =>
    simp only [Script.step, Script.watch]
    split
    · exact known
    · exact source?_addHandle _ known
  | watchBook request =>
    simp only [Script.step, Script.watchBook]
    split
    · exact known
    · exact source?_addHandle _ known
  | derive name handles => exact source?_addHandle _ known
  | latest handle part =>
    simp only [Script.step]
    split <;> exact known
  | dispose handle part => exact (source?_dispose script handle index part).1.trans known
  | startDisposal handle part => exact (source?_dispose script handle index part).2.1.trans known
  | finishDisposal handle part => exact (source?_dispose script handle index part).2.2.trans known
  | _ => exact known

theorem source?_run {script : Script α} {index : Nat} {source : Source} (steps : List (Step α))
    (known : script.source? index = some source) :
    (script.run steps).source? index = some source := by
  induction steps generalizing script with
  | nil => exact known
  | cons step rest ih => exact ih (source?_step step known)

/-! ## Later moments -/

/-- The second script is the first one at a later moment: after some steps, and perhaps in the
middle of what the next ones do. -/
def Later (script later : Script α) : Prop :=
  ∃ steps now, Moves (script.run steps).session now ∧ later = (script.run steps).withSession now

theorem Later.of_run (script : Script α) (steps : List (Step α)) : script.Later (script.run steps) :=
  ⟨steps, _, .refl, rfl⟩

theorem Later.moves {script later : Script α} (after : script.Later later) :
    Moves script.session later.session := by
  obtain ⟨steps, now, moves, rfl⟩ := after
  exact (moves_run script steps).trans moves

theorem Later.source? {script later : Script α} {index : Nat} {source : Source}
    (after : script.Later later) (known : script.source? index = some source) :
    later.source? index = some source := by
  obtain ⟨steps, now, moves, rfl⟩ := after
  exact source?_run steps known

/-! ## Readings -/

/-- What reading a handle answers. -/
def Reads (script : Script α) (handle : Nat) (part : Option Part) (value : Value α) : Prop :=
  (script.step (.latest handle part)).2 = .ok (.value value)

theorem reads_of_source {script : Script α} {handle : Nat} {source : Source} (part : Option Part)
    (known : script.source? handle = some source) :
    script.Reads handle part (script.session.value (partSource source part)) := by
  simp only [Reads, Script.step, known, readOnly]

theorem reads_of_watcher {script : Script α} {handle index : Nat} {part : Option Part}
    {source : Source} {watcher : Watcher α} (known : script.source? handle = some source)
    (aimed : partSource source part = .watcher index)
    (found : script.session.watchers[index]? = some watcher) :
    script.Reads handle part (.snapshot watcher.latest) := by
  have reads := reads_of_source part known
  rw [aimed] at reads
  simpa only [value, found] using reads

/-! ## Handles of starts -/

/-- The handle that an answer names. -/
def opened? : Except Fault (Answer α) → Option (Nat × String)
  | .ok (.handle index name) => some (index, name)
  | _ => none

theorem opened?_eq_some_iff {answer : Except Fault (Answer α)} {index : Nat} {name : String} :
    opened? answer = some (index, name) ↔ answer = .ok (.handle index name) := by
  unfold opened?
  split
  · simp
  · rename_i none
    constructor
    · intro same
      cases same
    · rintro rfl
      exact (none index name rfl).elim

theorem watch_started {script : Script α} {request : WatchRequest α} {handle : Nat} {name : String}
    (success : (script.step (.watch request)).2 = .ok (.handle handle name)) :
    ∃ index, Started script.session request index (script.step (.watch request)).1.session ∧
      (script.step (.watch request)).1.source? handle = some (.watcher index) := by
  simp only [Script.step, Script.watch] at success ⊢
  rcases result : script.session.watchAccount request with ⟨next, outcome⟩
  rw [result] at success
  cases outcome with
  | error fault => cases success
  | ok index =>
    cases success
    exact ⟨index, started_of_ok result, source?_addHandle_size _ _⟩

theorem watchBook_started {script : Script α} {request : BookRequest} {handle : Nat} {name : String}
    (success : (script.step (.watchBook request)).2 = .ok (.handle handle name)) :
    ∃ watchers between,
      Started script.session
        (.side .bids request.bids request.market request.capacity request.options)
        watchers.bids between ∧
      Started between (.side .asks request.asks request.market request.capacity request.options)
        watchers.asks (script.step (.watchBook request)).1.session ∧
      (script.step (.watchBook request)).1.source? handle = some (.book watchers) := by
  simp only [Script.step, Script.watchBook] at success ⊢
  rcases result : script.session.watchBook request with ⟨next, outcome⟩
  rw [result] at success
  cases outcome with
  | error fault => cases success
  | ok watchers =>
    cases success
    obtain ⟨between, bids, asks⟩ := started_of_book result
    exact ⟨watchers, between, bids, asks, source?_addHandle_size _ _⟩

end Script

/-- A decoder such as a caller may pass: the first byte of an account that has one. -/
def firstByte (account : Account) : Except PayloadError UInt8 :=
  match account.data[0]? with
  | some byte => .ok byte
  | none => .error (.thrown (.error "no data"))

end SlabBook

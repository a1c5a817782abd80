import SlabBook.Proofs.Deliveries
import SlabBook.Proofs.Outcomes
import SlabBook.Live.Load

/-!
# The phases of an operation

Every operation of a session is a row of phases: changes from outside and notes around its calls, the
attachment of a listener, the enlisting of a watcher, its second reading, its retirement, a request
for the removal of a listener, and the removal.  What an operation may touch is said by a scope:
which changes happen meanwhile, which watchers the operation starts, and which listeners belong to no
other watcher.

* `CallPhase`, `Phase` — the phases of a call and of an operation;
* `fetch_phases`, `subscribe_phases` — what a call on the connection comes to;
* `phases_watchAccount`, `phases_watchBook`, `phases_dispose` — the operations.
-/

namespace SlabBook

variable {α : Type}

/-- The changes around a call. -/
def Plan.changes (plan : Plan) : List Change := plan.before ++ plan.after

/-- How a call with the plan ends. -/
def Plan.outcome (plan : Plan) : Except Fault Unit :=
  match plan.failure with
  | some message => .error (.failure message)
  | none => .ok ()

namespace Connection

variable {allowed : Change → Prop} {connection : Connection}

/-- The changes that wait in the queue are all of this kind. -/
def Expects (allowed : Change → Prop) (connection : Connection) : Prop :=
  ∀ entry ∈ connection.plans, ∀ change ∈ entry.2.changes, allowed change

theorem expects_any (connection : Connection) : connection.Expects fun _ => True :=
  fun _ _ _ _ => trivial

theorem Expects.nextPlan (expects : connection.Expects allowed) (kind : CallKind) :
    ∀ change ∈ (connection.nextPlan kind).changes, allowed change := by
  intro change member
  cases queued : connection.plans.lookup kind with
  | none =>
    simp only [Connection.nextPlan, queued] at member
    cases member
  | some plan =>
    simp only [Connection.nextPlan, queued, Option.getD_some] at member
    obtain ⟨front, back, cut, _⟩ := List.lookup_eq_some_iff.1 queued
    exact expects (kind, plan) (cut ▸ List.mem_append_right _ (List.mem_cons_self ..)) change
      member

theorem Expects.takePlan (expects : connection.Expects allowed) (kind : CallKind) :
    (connection.takePlan kind).Expects allowed :=
  fun entry member => expects entry (List.mem_of_mem_eraseP member)

theorem Expects.queue (expects : connection.Expects allowed) (kind : CallKind) {plan : Plan}
    (planned : ∀ change ∈ plan.changes, allowed change) :
    (connection.queue kind plan).Expects allowed := by
  intro entry member
  rcases List.mem_append.1 member with old | fresh
  · exact expects entry old
  · obtain rfl := List.mem_singleton.1 fresh
    exact planned

end Connection

namespace Session

variable {s next : Session α} {allowed : Change → Prop} {index id : Nat} {watcher : Watcher α}
  {request : WatchRequest α}

/-- The sink is no watcher's, or it is that of a watcher of the address. -/
def Aims (s : Session α) (address : Address) (sink : Sink) : Prop :=
  ∀ index, sink = .watcher index →
    ∃ watcher, s.watchers[index]? = some watcher ∧ watcher.request.address = address

/-- The watcher is there as it was requested and is not disposed. -/
def Awaits (s : Session α) (index : Nat) (request : WatchRequest α) : Prop :=
  ∃ watcher, s.watchers[index]? = some watcher ∧ watcher.request = request ∧
    watcher.watch.disposed = false

theorem Awaits.aims (awaits : s.Awaits index request) : s.Aims request.address (.watcher index) := by
  obtain ⟨watcher, found, requested, _⟩ := awaits
  rintro other ⟨⟩
  exact ⟨watcher, found, by rw [requested]⟩

/-- What happens during a call on the connection: changes from outside that are of a kind, notes,
the look at an account, and the taking of a plan. -/
inductive CallPhase (allowed : Change → Prop) : Session α → Session α → Prop
  | change (s : Session α) (change : Change) (happens : allowed change) :
      CallPhase allowed s (s.change change)
  | note (s : Session α) (event : Event) (plain : event.Plain) :
      CallPhase allowed s (s.record event)
  | answer (s : Session α) (address : Address) (found : Option Account)
      (current : found = (s.connection.find? address).map fun version => version.account address) :
      CallPhase allowed s (s.record (.returned address found))
  | takePlan (s : Session α) (kind : CallKind) :
      CallPhase allowed s { s with connection := s.connection.takePlan kind }

abbrev CallPhases (allowed : Change → Prop) : Session α → Session α → Prop :=
  Relation.ReflTransGen (CallPhase allowed)

/-- What an operation may touch: changes from outside that are of a kind, the watchers that it
starts, and listeners that belong to no other watcher. -/
structure Scope where
  allowed : Change → Prop
  fresh : Nat → Prop
  loose : Nat → Prop

/-- What of a disposal happens at once: the watcher is retired, that it is being disposed is noted, and
the removal of its listener is asked for. -/
def leave (s : Session α) (index : Nat) : Session α :=
  match s.watchers[index]? with
  | some ⟨_, _, _, some id, none⟩ =>
    ((s.retire index).setDisposal index
      (.pending (s.connection.nextPlan .unsubscribe))).record (.unsubscribed id)
  | some ⟨_, _, _, none, none⟩ => (s.retire index).setDisposal index (.settled (.ok ()))
  | _ => s

/-- One phase.  The watchers that are touched, but for a disposal, are those that the operation
starts. -/
inductive Phase (scope : Scope) : Session α → Session α → Prop
  | call {s next : Session α} (phase : CallPhase scope.allowed s next) : Phase scope s next
  | attach (s : Session α) (address : Address) (sink : Sink) (aims : s.Aims address sink)
      (fresh : ∀ index, sink = .watcher index → scope.fresh index) :
      Phase scope s (s.attachListener address sink)
  | ask (s : Session α) (id : Nat) (loose : scope.loose id) :
      Phase scope s (s.record (.unsubscribed id))
  | detach (s : Session α) (id : Nat) (loose : scope.loose id) :
      Phase scope s { s with connection := s.connection.detach id }
  | enlist (s : Session α) (request : WatchRequest α) (value : Snapshot α) (account : Account)
      (returned : .returned request.address (some account) ∈ s.events)
      (decoded : request.format.decode account = .ok value) (fresh : scope.fresh s.watchers.size) :
      Phase scope s (s.enlist request value account.slot).1
  | hold (s : Session α) (index id : Nat) (fresh : scope.fresh index) (loose : scope.loose id) :
      Phase scope s (s.holdListener index id)
  | takeUp (s : Session α) (index : Nat) (request : WatchRequest α) (second : Option Account)
      (fresh : scope.fresh index) (awaits : s.Awaits index request)
      (returned : ∀ account, second = some account →
        .returned request.address (some account) ∈ s.events) :
      Phase scope s (s.takeUp index request second).1
  | retire (s : Session α) (index : Nat) (fresh : scope.fresh index) : Phase scope s (s.retire index)
  | leave (s : Session α) (index : Nat) : Phase scope s (s.leave index)
  | finish (s : Session α) (index : Nat) : Phase scope s (s.finishDisposal index)

abbrev Phases (scope : Scope) : Session α → Session α → Prop := Relation.ReflTransGen (Phase scope)

variable {scope : Scope}

theorem CallPhases.phases (phases : CallPhases scope.allowed s next) : Phases scope s next := by
  induction phases with
  | refl => exact .refl
  | tail _ phase ih => exact ih.tail (.call phase)

/-! ## What a call leaves -/

theorem retire_connection (index : Nat) : (s.retire index).connection = s.connection := by
  unfold retire
  split
  · rfl
  · rename_i watcher _
    cases watcher.feed <;> rfl

theorem setDisposal_connection (index : Nat) (disposal : Disposal) :
    (s.setDisposal index disposal).connection = s.connection := by
  unfold setDisposal
  split <;> rfl

theorem retire_setDisposal_connection (index : Nat) (disposal : Disposal) :
    ((s.retire index).setDisposal index disposal).connection = s.connection :=
  (setDisposal_connection index disposal).trans (retire_connection index)

/-- A change leaves the connection as it is, but for the table. -/
theorem change_connection (change : Change) :
    (s.change change).connection = (s.keep change).connection := by
  have kept : ((s.record (.changed change)).keep change).connection = (s.keep change).connection := by
    cases change <;> rfl
  refine @change_invariant _ s (fun now => now.connection = (s.keep change).connection) change kept
    fun now version listener _ same => ?_
  rw [deliver_connection, same]

theorem change_nextListener (change : Change) :
    (s.change change).connection.nextListener = s.connection.nextListener := by
  rw [change_connection]
  cases change <;> rfl

theorem change_plans (change : Change) : (s.change change).connection.plans = s.connection.plans := by
  rw [change_connection]
  cases change <;> rfl

theorem CallPhase.nextListener (phase : CallPhase allowed s next) :
    next.connection.nextListener = s.connection.nextListener := by
  cases phase with
  | change change happens => exact change_nextListener change
  | note event plain => rfl
  | answer address found current => rfl
  | takePlan kind => rfl

theorem CallPhases.nextListener (phases : CallPhases allowed s next) :
    next.connection.nextListener = s.connection.nextListener := by
  induction phases with
  | refl => rfl
  | tail _ phase ih => exact phase.nextListener.trans ih

theorem CallPhase.expects (phase : CallPhase allowed s next) (plans : s.connection.Expects allowed) :
    next.connection.Expects allowed := by
  cases phase with
  | change change happens =>
    unfold Connection.Expects
    rw [change_plans]
    exact plans
  | note event plain => exact plans
  | answer address found current => exact plans
  | takePlan kind => exact plans.takePlan kind

/-- A delivery leaves what was requested and whether it is disposed, in any watcher. -/
theorem Awaits.deliver (awaits : s.Awaits index request) (version : Stored) (listener : Listener) :
    (s.deliver version listener).Awaits index request := by
  obtain ⟨watcher, found, requested, live⟩ := awaits
  rcases s.deliver_cases version listener with ⟨position, there, sink, known⟩ | ⟨_, recorded⟩
  · have pinged : (s.pingWatcher there).watchers = s.watchers := pingWatcher_watchers
    rw [deliver_eq sink known]
    unfold Awaits
    show ∃ after, ((s.pingWatcher there).setWatcher position _).watchers[index]? = some after ∧ _
    rw [getElem?_setWatcher, pinged]
    by_cases same : position = index
    · subst same
      obtain rfl : there = watcher := Option.some.inj (known.symm.trans found)
      rw [if_pos rfl, if_pos (lt_size_of_found found)]
      exact ⟨_, rfl, requested, Watch.disposed_notify.trans live⟩
    · exact ⟨watcher, by rw [if_neg same, found], requested, live⟩
  · rw [recorded]
    exact ⟨watcher, found, requested, live⟩

theorem CallPhases.awaits (phases : CallPhases allowed s next) (awaits : s.Awaits index request) :
    next.Awaits index request := by
  induction phases with
  | refl => exact awaits
  | tail _ phase ih =>
    cases phase with
    | change change happens =>
      refine @change_invariant _ _ (fun now => now.Awaits index request) change ?_
        fun now version listener _ before => before.deliver version listener
      unfold Awaits
      rw [keep_watchers]
      exact ih
    | note event plain => exact ih
    | answer address found current => exact ih
    | takePlan kind => exact ih

theorem CallPhase.mem_events (phase : CallPhase allowed s next) {event : Event}
    (seen : event ∈ s.events) : event ∈ next.events := by
  cases phase with
  | change change happens =>
    refine @change_invariant _ s (fun now => event ∈ now.events) change ?_
      fun now version listener _ before => ?_
    · rw [events_changed]
      exact List.mem_append_left _ seen
    · rcases now.deliver_cases version listener with ⟨position, there, sink, known⟩ | ⟨_, recorded⟩
      · rw [deliver_eq sink known, events_recordAll]
        refine List.mem_append_left _ ?_
        show event ∈ (now.pingWatcher there).events
        rwa [pingWatcher_events]
      · rw [recorded, events_record]
        exact List.mem_append_left _ before
  | note event plain =>
    rw [events_record]
    exact List.mem_append_left _ seen
  | answer address found current =>
    rw [events_record]
    exact List.mem_append_left _ seen
  | takePlan kind => exact seen

theorem CallPhases.mem_events (phases : CallPhases allowed s next) {event : Event}
    (seen : event ∈ s.events) : event ∈ next.events := by
  induction phases with
  | refl => exact seen
  | tail _ phase ih => exact phase.mem_events ih

/-! ## Calls -/

theorem callPhases_note (event : Event) (plain : event.Plain) :
    CallPhases allowed s (s.record event) :=
  .single (.note s event plain)

theorem callPhases_log (options : WatchOptions) (entry : LogRecord) :
    CallPhases allowed s (s.log options entry) := by
  unfold log
  split
  · exact callPhases_note _ trivial
  · exact .refl

theorem callPhases_changes (list : List Change) (happen : ∀ change ∈ list, allowed change) :
    CallPhases allowed s (s.changes list) := by
  induction list generalizing s with
  | nil => exact .refl
  | cons change rest ih =>
    exact .head (.change s change (happen change (List.mem_cons_self ..)))
      (ih fun other member => happen other (List.mem_cons_of_mem _ member))

/-- What comes before a call, once the call is recorded. -/
theorem callPhases_enter (plans : s.connection.Expects allowed) (kind : CallKind) (call : Event) :
    CallPhases allowed (s.record call) (s.enter kind call).1 :=
  .head (.takePlan (s.record call) kind) (callPhases_changes _ fun change member =>
    plans.nextPlan kind change (List.mem_append_left _ member))

/-- What comes after a call, as the plan for it says. -/
theorem callPhases_after (plans : s.connection.Expects allowed) (kind : CallKind) (call : Event) :
    CallPhases allowed next (next.changes (s.enter kind call).2.after) :=
  callPhases_changes _ fun change member =>
    plans.nextPlan kind change (List.mem_append_right _ member)

/-- A fetch that succeeds looks once, with phases before and after. -/
theorem fetch_phases (plans : s.connection.Expects allowed) {address : Address}
    {outcome : Except Fault (Option Account)} (result : s.fetch address = (next, outcome)) :
    (∃ fault, outcome = .error fault ∧ CallPhases allowed s next) ∨
      ∃ looking found, outcome = .ok found ∧ CallPhases allowed s looking ∧
        found = ((looking.connection.find? address).map fun version => version.account address) ∧
        CallPhases allowed (looking.record (.returned address found)) next := by
  have entered : CallPhases allowed s (s.enter .fetch (.fetched address s.commitment)).1 :=
    (callPhases_note (.fetched address s.commitment) trivial).trans (callPhases_enter plans .fetch _)
  have after {looked : Session α} : CallPhases allowed looked
      (looked.changes (s.enter .fetch (.fetched address s.commitment)).2.after) :=
    callPhases_after plans .fetch _
  unfold fetch at result
  rcases called : s.enter .fetch (.fetched address s.commitment) with ⟨looking, plan⟩
  rw [called] at result entered after
  dsimp only at result
  split at result
  · cases result
    exact .inl ⟨_, rfl, entered⟩
  · cases result
    exact .inr ⟨looking, _, rfl, entered, rfl, after⟩

theorem callPhases_fetch (plans : s.connection.Expects allowed) {address : Address}
    {outcome : Except Fault (Option Account)} (result : s.fetch address = (next, outcome)) :
    CallPhases allowed s next := by
  rcases fetch_phases plans result with ⟨_, _, phases⟩ | ⟨looking, found, _, before, current, after⟩
  · exact phases
  · exact (before.tail (.answer looking address found current)).trans after

theorem returned_of_fetch {address : Address} {found : Option Account}
    (fetched : s.fetch address = (next, .ok found)) : .returned address found ∈ next.events := by
  rcases fetch_phases s.connection.expects_any fetched with
    ⟨_, none, _⟩ | ⟨looking, account, same, _, _, after⟩
  · cases none
  · cases same
    exact after.mem_events (by simp)

/-- A subscription that succeeds attaches its listener, with phases before and after. -/
theorem subscribe_phases (plans : s.connection.Expects allowed) {address : Address} {sink : Sink}
    {outcome : Except Fault Nat} (result : s.subscribe address sink = (next, outcome)) :
    (∃ fault, outcome = .error fault ∧ CallPhases allowed s next) ∨
      ∃ asking, outcome = .ok s.connection.nextListener ∧ CallPhases allowed s asking ∧
        CallPhases allowed (asking.attachListener address sink) next := by
  have entered : CallPhases allowed s (s.enter .subscribe (.subscribed address s.commitment)).1 :=
    (callPhases_note (.subscribed address s.commitment) trivial).trans
      (callPhases_enter plans .subscribe _)
  have after {held : Session α} : CallPhases allowed held
      (held.changes (s.enter .subscribe (.subscribed address s.commitment)).2.after) :=
    callPhases_after plans .subscribe _
  unfold subscribe at result
  rcases called : s.enter .subscribe (.subscribed address s.commitment) with ⟨asking, plan⟩
  rw [called] at result entered after
  dsimp only at result
  split at result
  · cases result
    exact .inl ⟨_, rfl, entered⟩
  · cases result
    refine .inr ⟨asking, ?_, entered, after⟩
    rw [← entered.nextListener]

/-! ## Rows of phases -/

theorem removeListener_outcome (id : Nat) (plan : Plan) :
    (s.removeListener id plan).2 = plan.outcome := by
  unfold removeListener Plan.outcome
  cases plan.failure <;> rfl

/-- A removal detaches the listener or leaves everything as it is. -/
theorem removeListener_cases (id : Nat) (plan : Plan) :
    (s.removeListener id plan).1 = s ∨
      (s.removeListener id plan).1 = { s with connection := s.connection.detach id } := by
  unfold removeListener
  cases plan.failure with
  | some message => exact .inl rfl
  | none =>
    cases plan.retain with
    | true => exact .inl rfl
    | false => exact .inr rfl

theorem setWatcher_size (index : Nat) (watcher : Watcher α) :
    (s.setWatcher index watcher).watchers.size = s.watchers.size :=
  Array.size_setIfInBounds ..

theorem retire_size (index : Nat) : (s.retire index).watchers.size = s.watchers.size := by
  unfold retire
  split
  · rfl
  · rename_i watcher _
    cases watcher.feed <;> exact setWatcher_size index _

theorem setDisposal_size (index : Nat) (disposal : Disposal) :
    (s.setDisposal index disposal).watchers.size = s.watchers.size := by
  unfold setDisposal
  split
  · rfl
  · exact setWatcher_size index _

theorem holdListener_size (index id : Nat) :
    (s.holdListener index id).watchers.size = s.watchers.size := by
  unfold holdListener
  split
  · rfl
  · exact setWatcher_size index _

theorem takeUp_size (second : Option Account) :
    (s.takeUp index request second).1.watchers.size = s.watchers.size := by
  unfold takeUp
  split
  · rfl
  · split
    · rfl
    · exact setWatcher_size index _

theorem deliver_size (version : Stored) (listener : Listener) :
    (s.deliver version listener).watchers.size = s.watchers.size := by
  rcases s.deliver_cases version listener with ⟨position, there, sink, known⟩ | ⟨_, recorded⟩
  · rw [deliver_eq sink known]
    exact (setWatcher_size position _).trans (congrArg Array.size pingWatcher_watchers)
  · rw [recorded]
    rfl

/-- What is noted at once of a disposal: nothing, if it is not the first one; or the watcher retires and
asks for the removal of its listener, if it has one. -/
inductive Left (s : Session α) (index : Nat) : Session α → Prop
  | nothing : Left s index s
  | asked {watcher : Watcher α} {id : Nat} (found : s.watchers[index]? = some watcher)
      (listener : watcher.listener = some id) (first : watcher.disposal = none) :
      Left s index (((s.retire index).setDisposal index
        (.pending (s.connection.nextPlan .unsubscribe))).record (.unsubscribed id))
  | unheard {watcher : Watcher α} (found : s.watchers[index]? = some watcher)
      (listener : watcher.listener = none) (first : watcher.disposal = none) :
      Left s index ((s.retire index).setDisposal index (.settled (.ok ())))

theorem leave_cases (s : Session α) (index : Nat) : Left s index (s.leave index) := by
  unfold leave
  split
  · rename_i found
    exact .asked found rfl rfl
  · rename_i found
    exact .unheard found rfl rfl
  · exact .nothing

/-- Only the first disposal of a watcher does anything. -/
theorem leave_again (found : s.watchers[index]? = some watcher) {begun : Disposal}
    (again : watcher.disposal = some begun) : s.leave index = s := by
  rcases watcher with ⟨request, watch, feed, listener, _⟩
  cases again
  simp only [leave, found]

/-- The first disposal of a watcher that has a listener. -/
theorem leave_of_listener (found : s.watchers[index]? = some watcher)
    (listener : watcher.listener = some id) (first : watcher.disposal = none) :
    s.leave index = ((s.retire index).setDisposal index
      (.pending (s.connection.nextPlan .unsubscribe))).record (.unsubscribed id) := by
  rcases watcher with ⟨request, watch, feed, _, _⟩
  cases listener
  cases first
  simp only [leave, found]

theorem leave_of_unheard (found : s.watchers[index]? = some watcher)
    (listener : watcher.listener = none) (first : watcher.disposal = none) :
    s.leave index = (s.retire index).setDisposal index (.settled (.ok ())) := by
  rcases watcher with ⟨request, watch, feed, _, _⟩
  cases listener
  cases first
  simp only [leave, found]

/-- What the answer to a removal comes to: nothing, if none was due; or the removal failed; or the
listener is removed, unless it is retained. -/
inductive Finished (s : Session α) (index : Nat) : Session α → Prop
  | nothing : Finished s index s
  | failed {watcher : Watcher α} {plan : Plan} {fault : Fault}
      (found : s.watchers[index]? = some watcher) (due : watcher.disposal = some (.pending plan))
      (outcome : plan.outcome = .error fault) :
      Finished s index (s.setDisposal index (.settled (.error fault)))
  | removed {removed : Session α} {watcher : Watcher α} {id : Nat} {plan : Plan}
      (found : s.watchers[index]? = some watcher) (listener : watcher.listener = some id)
      (due : watcher.disposal = some (.pending plan)) (outcome : plan.outcome = .ok ())
      (removal : removed = s ∨ removed = { s with connection := s.connection.detach id }) :
      Finished s index ((removed.setDisposal index (.settled (.ok ()))).log watcher.request.options
        (.disposed watcher.request.name watcher.request.address))

theorem finish_cases (s : Session α) (index : Nat) : Finished s index (s.finishDisposal index) := by
  unfold finishDisposal
  split
  · rename_i request watch feed id plan found
    have outcome := s.removeListener_outcome id plan
    have removal := s.removeListener_cases id plan
    rcases made : s.removeListener id plan with ⟨removed, answer⟩
    rw [made] at outcome removal
    cases answer with
    | error fault =>
      have stays : removed = s := by
        unfold removeListener at made
        split at made
        · exact (congrArg Prod.fst made).symm
        · cases made
      subst stays
      exact .failed found rfl outcome.symm
    | ok => exact .removed found rfl rfl outcome.symm removal
  · exact .nothing

/-- The first disposal of a watcher, up to the answer of the connection. -/
theorem startDisposal_phases (plans : s.connection.Expects allowed) (index : Nat) :
    CallPhases allowed (s.leave index) (s.startDisposal index) := by
  rcases found : s.watchers[index]? with _ | ⟨request, watch, feed, listener, disposal⟩
  · simp only [leave, startDisposal, found]
    exact .refl
  cases disposal with
  | some begun =>
    simp only [leave, startDisposal, found]
    exact .refl
  | none =>
    cases listener with
    | none =>
      simp only [leave, startDisposal, found]
      exact .refl
    | some id =>
      simp only [leave, startDisposal, found]
      exact callPhases_enter ((retire_setDisposal_connection index _).symm ▸ plans) .unsubscribe
        (.unsubscribed id)

/-! ## What a phase leaves -/

theorem Left.connection (left : Left s index next) : next.connection = s.connection := by
  cases left with
  | nothing => rfl
  | asked => exact retire_setDisposal_connection index _
  | unheard => exact retire_setDisposal_connection index _

theorem Left.size (left : Left s index next) : next.watchers.size = s.watchers.size := by
  have retired (disposal : Disposal) :
      ((s.retire index).setDisposal index disposal).watchers.size = s.watchers.size :=
    (setDisposal_size index disposal).trans (retire_size index)
  cases left with
  | nothing => rfl
  | asked => exact retired _
  | unheard => exact retired _

/-- The answer to a removal leaves the connection as it is, but for the listener. -/
theorem Finished.connection (finished : Finished s index next) :
    next.connection = s.connection ∨ ∃ id, next.connection = s.connection.detach id := by
  cases finished with
  | nothing => exact .inl rfl
  | failed => exact .inl (setDisposal_connection index _)
  | @removed removed watcher id plan found listener due outcome removal =>
    have same : ((removed.setDisposal index (.settled (.ok ()))).log watcher.request.options
        (.disposed watcher.request.name watcher.request.address)).connection =
          removed.connection := by
      rw [log_eq]
      exact setDisposal_connection index _
    rw [same]
    rcases removal with rfl | rfl
    · exact .inl rfl
    · exact .inr ⟨id, rfl⟩

theorem Finished.size (finished : Finished s index next) : next.watchers.size = s.watchers.size := by
  cases finished with
  | nothing => rfl
  | failed => exact setDisposal_size index _
  | removed found listener due outcome removal =>
    rw [log_eq]
    refine (setDisposal_size index _).trans ?_
    rcases removal with rfl | rfl <;> rfl

theorem CallPhase.size (phase : CallPhase allowed s next) :
    next.watchers.size = s.watchers.size := by
  cases phase with
  | change change happens =>
    refine @change_invariant _ s (fun now => now.watchers.size = s.watchers.size) change ?_
      fun now version listener _ same => ?_
    · rw [keep_watchers]
      rfl
    · rw [deliver_size, same]
  | note event plain => rfl
  | answer address found current => rfl
  | takePlan kind => rfl

/-- What waits in the queue stays of its kind, and no watcher and no number of a listener is taken
back. -/
structure Proceeds (allowed : Change → Prop) (s next : Session α) : Prop where
  plans : s.connection.Expects allowed → next.connection.Expects allowed
  size : s.watchers.size ≤ next.watchers.size
  nextListener : s.connection.nextListener ≤ next.connection.nextListener

theorem Proceeds.trans {between : Session α} (first : Proceeds allowed s between)
    (second : Proceeds allowed between next) : Proceeds allowed s next where
  plans := second.plans ∘ first.plans
  size := Nat.le_trans first.size second.size
  nextListener := Nat.le_trans first.nextListener second.nextListener

theorem proceeds_of_connection (connection : next.connection = s.connection)
    (size : s.watchers.size ≤ next.watchers.size) : Proceeds allowed s next :=
  ⟨fun plans => connection ▸ plans, size, connection ▸ Nat.le_refl _⟩

theorem Phase.proceeds (phase : Phase scope s next) : Proceeds scope.allowed s next := by
  cases phase with
  | call phase => exact ⟨phase.expects, Nat.le_of_eq phase.size.symm,
      Nat.le_of_eq phase.nextListener.symm⟩
  | attach address sink aims fresh => exact ⟨id, Nat.le_refl _, Nat.le_succ _⟩
  | ask id loose => exact proceeds_of_connection rfl (Nat.le_refl _)
  | detach id loose => exact ⟨fun plans => plans, Nat.le_refl _, Nat.le_refl _⟩
  | enlist request value account returned decoded fresh =>
    exact proceeds_of_connection rfl ((Array.size_push ..).symm ▸ Nat.le_succ _)
  | hold index id fresh loose =>
    refine proceeds_of_connection ?_ (Nat.le_of_eq (holdListener_size index id).symm)
    unfold holdListener
    split <;> rfl
  | takeUp index request second fresh awaits returned =>
    refine proceeds_of_connection ?_ (Nat.le_of_eq (takeUp_size second).symm)
    unfold Session.takeUp
    split
    · rfl
    · split <;> rfl
  | retire index fresh =>
    exact proceeds_of_connection (retire_connection index)
      (Nat.le_of_eq (retire_size index).symm)
  | leave index =>
    have left := s.leave_cases index
    exact proceeds_of_connection left.connection (Nat.le_of_eq left.size.symm)
  | finish index =>
    have finished := s.finish_cases index
    have size := Nat.le_of_eq finished.size.symm
    rcases finished.connection with same | ⟨id, detached⟩
    · exact proceeds_of_connection same size
    · refine ⟨fun plans => ?_, size, ?_⟩
      · rw [detached]
        exact plans
      · rw [detached]
        exact Nat.le_refl _

theorem Phases.proceeds (phases : Phases scope s next) : Proceeds scope.allowed s next := by
  induction phases with
  | refl => exact proceeds_of_connection rfl (Nat.le_refl _)
  | tail _ phase ih => exact ih.trans phase.proceeds

/-! ## Operations -/

variable {position : Nat}

theorem phases_unsubscribe (plans : s.connection.Expects scope.allowed) (loose : scope.loose id) :
    Phases scope s (s.unsubscribe id).1 := by
  have entered : Phases scope s (s.enter .unsubscribe (.unsubscribed id)).1 :=
    .head (.ask s id loose) (callPhases_enter plans .unsubscribe _).phases
  unfold unsubscribe
  rcases called : s.enter .unsubscribe (.unsubscribed id) with ⟨asking, plan⟩
  rw [called] at entered
  dsimp only
  rcases asking.removeListener_cases id plan with same | detached
  · rw [same]
    exact entered
  · rw [detached]
    exact entered.tail (.detach asking id loose)

theorem phases_subscribe (plans : s.connection.Expects scope.allowed) {address : Address}
    {sink : Sink} (aims : ∀ {asking : Session α}, CallPhases scope.allowed s asking →
      asking.Aims address sink)
    (fresh : ∀ index, sink = .watcher index → scope.fresh index) {outcome : Except Fault Nat}
    (result : s.subscribe address sink = (next, outcome)) : Phases scope s next := by
  rcases subscribe_phases plans result with ⟨_, _, phases⟩ | ⟨asking, _, before, after⟩
  · exact phases.phases
  · exact (before.phases.tail (.attach asking address sink (aims before) fresh)).trans after.phases

theorem phases_catchUp (plans : s.connection.Expects scope.allowed) (fresh : scope.fresh index)
    (awaits : s.Awaits index request) {outcome : Except Fault Unit}
    (result : s.catchUp index request = (next, outcome)) : Phases scope s next := by
  rcases fetched : s.fetch request.address with ⟨looked, found⟩
  have looking := callPhases_fetch plans fetched
  cases found with
  | error fault =>
    simp only [catchUp, fetched] at result
    cases result
    exact looking.phases
  | ok second =>
    rw [catchUp_of_fetched fetched] at result
    obtain rfl : (looked.takeUp index request second).1 = next := congrArg Prod.fst result
    exact looking.phases.tail (.takeUp looked index request second fresh (looking.awaits awaits)
      fun account same => same ▸ returned_of_fetch fetched)

/-- A start that is given up retires its watcher and removes the listener. -/
theorem giveUp_session (index id : Nat) (fault : Fault) :
    (s.giveUp index id fault).1 = ((s.retire index).unsubscribe id).1 := by
  unfold giveUp
  rcases (s.retire index).unsubscribe id with ⟨after, outcome⟩
  cases outcome <;> rfl

theorem phases_giveUp (plans : s.connection.Expects scope.allowed) (loose : scope.loose id)
    (fault : Fault) : Phases scope (s.retire index) (s.giveUp index id fault).1 := by
  rw [giveUp_session]
  exact phases_unsubscribe ((retire_connection (s := s) index).symm ▸ plans) loose

theorem Awaits.holdListener (awaits : s.Awaits index request) (id : Nat) :
    (s.holdListener index id).Awaits index request := by
  obtain ⟨watcher, found, requested, live⟩ := awaits
  refine ⟨{ watcher with listener := some id }, ?_, requested, live⟩
  simp only [Session.holdListener, found]
  rw [getElem?_setWatcher, if_pos rfl, if_pos (lt_size_of_found found)]

/-- A watcher that has its listener. -/
theorem phases_heard (plans : s.connection.Expects scope.allowed) (fresh : scope.fresh index)
    (loose : scope.loose s.connection.nextListener) (awaits : s.Awaits index request)
    {held : Session α} (subscribed : s.subscribe request.address (.watcher index) = (held, .ok id)) :
    Phases scope s (held.holdListener index id) ∧ scope.loose id ∧
      (held.holdListener index id).Awaits index request := by
  rcases subscribe_phases plans subscribed with ⟨_, none, _⟩ | ⟨asking, same, before, after⟩
  · cases none
  obtain rfl := Except.ok.inj same
  have asking_awaits : (asking.attachListener request.address (.watcher index)).Awaits index request :=
    before.awaits awaits
  refine ⟨?_, loose, (after.awaits asking_awaits).holdListener _⟩
  have attached : Phases scope s held := phases_subscribe plans
    (fun phases => (phases.awaits awaits).aims) (fun other aim => by cases aim; exact fresh) subscribed
  exact attached.tail (.hold held index _ fresh loose)

theorem phases_attach (plans : s.connection.Expects scope.allowed) (fresh : scope.fresh index)
    (loose : scope.loose s.connection.nextListener) (awaits : s.Awaits index request)
    {outcome : Except Fault Unit} (result : s.attach index request = (next, outcome)) :
    Phases scope s next := by
  cases attach_outcome result with
  | @unheard held fault subscribed =>
    exact (phases_subscribe plans (fun phases => (phases.awaits awaits).aims)
      (fun other aim => by cases aim; exact fresh) subscribed).tail (.retire held index fresh)
  | @failed held after id fault subscribed caught =>
    obtain ⟨heard, mine, awaits⟩ := phases_heard plans fresh loose awaits subscribed
    have read : Phases scope s after :=
      heard.trans (phases_catchUp (heard.proceeds.plans plans) fresh awaits caught)
    exact (read.tail (.retire after index fresh)).trans
      (phases_giveUp (read.proceeds.plans plans) mine fault)
  | @started held after id subscribed caught =>
    obtain ⟨heard, mine, awaits⟩ := phases_heard plans fresh loose awaits subscribed
    have read := heard.trans (phases_catchUp (heard.proceeds.plans plans) fresh awaits caught)
    exact read.trans (callPhases_log _ _).phases

theorem enlist_found (request : WatchRequest α) (value : Snapshot α) (slot : Option Int) :
    (s.enlist request value slot).1.watchers[s.watchers.size]? =
      some ⟨request, .seed value slot s.clock,
        if request.options.liveness then some s.liveness.nextId else none, none, none⟩ := by
  simp [enlist]

/-- What an operation may touch that starts here. -/
structure Admits (scope : Scope) (s : Session α) : Prop where
  plans : s.connection.Expects scope.allowed
  fresh : ∀ index, s.watchers.size ≤ index → scope.fresh index
  loose : ∀ id, s.connection.nextListener ≤ id → scope.loose id

theorem Admits.later (admits : Admits scope s) (phases : Phases scope s next) :
    Admits scope next where
  plans := phases.proceeds.plans admits.plans
  fresh index outside := admits.fresh index (Nat.le_trans phases.proceeds.size outside)
  loose id unknown := admits.loose id (Nat.le_trans phases.proceeds.nextListener unknown)

theorem phases_watchAccount (admits : Admits scope s) {outcome : Except Fault Nat}
    (result : s.watchAccount request = (next, outcome)) : Phases scope s next := by
  have entering {looked done : Session α} {first : Account} {value : Snapshot α}
      {answer : Except Fault Unit}
      (look : s.fetch request.address = (looked, .ok (some first)))
      (decoded : request.format.decode first = .ok value)
      (attaching : (looked.enlist request value first.slot).1.attach looked.watchers.size request =
        (done, answer)) : Phases scope s done := by
    have looking := (callPhases_fetch admits.plans look).phases
    have fresh : scope.fresh looked.watchers.size :=
      admits.fresh _ looking.proceeds.size
    have enlisted := looking.tail
      (.enlist looked request value first (returned_of_fetch look) decoded fresh)
    have seen := admits.later enlisted
    exact enlisted.trans (phases_attach seen.plans fresh (seen.loose _ (Nat.le_refl _))
      ⟨_, enlist_found request value first.slot, rfl, rfl⟩ attaching)
  cases watchAccount_outcome result with
  | unanswered look => exact (callPhases_fetch admits.plans look).phases
  | missing look => exact (callPhases_fetch admits.plans look).phases
  | malformed look refused => exact (callPhases_fetch admits.plans look).phases
  | failed look decoded attaching => exact entering look decoded attaching
  | started look decoded attaching => exact entering look decoded attaching

theorem phases_startDisposal (plans : s.connection.Expects scope.allowed) (index : Nat) :
    Phases scope s (s.startDisposal index) :=
  .head (.leave s index) (startDisposal_phases plans index).phases

theorem phases_startDisposals (plans : s.connection.Expects scope.allowed) (indices : List Nat) :
    Phases scope s (indices.foldl startDisposal s) := by
  induction indices generalizing s with
  | nil => exact .refl
  | cons index rest ih =>
    have first := phases_startDisposal plans index
    exact first.trans (ih (first.proceeds.plans plans))

theorem phases_finishDisposals (indices : List Nat) :
    Phases scope s (indices.foldl finishDisposal s) := by
  induction indices generalizing s with
  | nil => exact .refl
  | cons index rest ih => exact .head (.finish s index) ih

theorem phases_dispose (plans : s.connection.Expects scope.allowed) (indices : List Nat) :
    Phases scope s (s.dispose indices).1 :=
  (phases_startDisposals plans indices).trans (phases_finishDisposals indices)

theorem phases_watchBook (admits : Admits scope s) {request : BookRequest}
    {outcome : Except Fault BookWatchers} (result : s.watchBook request = (next, outcome)) :
    Phases scope s next := by
  cases watchBook_outcome result with
  | noBids first => exact phases_watchAccount admits first
  | @noAsks between after _ bids _ _ first second cleared =>
    have before := phases_watchAccount admits first
    have both := before.trans (phases_watchAccount (admits.later before) second)
    have disposed := phases_dispose (admits.later both).plans [bids]
    rw [cleared] at disposed
    exact both.trans disposed
  | both first second =>
    have before := phases_watchAccount admits first
    exact before.trans (phases_watchAccount (admits.later before) second)

theorem callPhases_loadSide (plans : s.connection.Expects allowed) (address : Address)
    (market : Market) (capacity : Capacity) :
    CallPhases allowed s (s.loadSide address market capacity).1 := by
  have looking := callPhases_fetch plans (Prod.eta (s.fetch address)).symm
  exact looking

end Session
end SlabBook

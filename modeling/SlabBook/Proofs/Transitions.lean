import SlabBook.Proofs.Registry
import SlabBook.Proofs.Releases

/-!
# Transitions of a session

A session goes from one moment to the next by a transition: a phase of an operation, a change that is
kept, one delivery, or a plan for a call to come.  It evolves by transitions and by calls on the
registry about feeds that belong to no watcher.  So every step of a script is an evolution, and the
moments on its way are those between the phases of its operations and between the deliveries of one
change.

* `Phase.transitions`, `Script.evolution_step`, `Script.evolution_run` — phases, steps and runs;
* `Transition.effect` — the four kinds of transitions that the registry can tell apart;
* `Transition.becomes`, `Evolution.continues` — what they leave of a watcher;
* `Transition.registryEffect`, `Evolution.calls` — what they do to the registry.
-/

namespace SlabBook

variable {α : Type}

namespace Session

variable {s next : Session α} {index : Nat} {watcher : Watcher α}

/-- Everything that an operation may do, but no changes from outside. -/
def Scope.inner : Scope := ⟨fun _ => False, fun _ => True, fun _ => True⟩

/-- One transition.  A delivery may come late, to a listener that is detached meanwhile, but it aims at
a watcher that is there. -/
inductive Transition : Session α → Session α → Prop
  | phase {s next : Session α} (phase : Phase .inner s next) : Transition s next
  | keep (s : Session α) (change : Change) :
      Transition s ((s.record (.changed change)).keep change)
  | deliver (s : Session α) (version : Stored) (listener : Listener)
      (aims : s.Aims listener.address listener.sink) : Transition s (s.deliver version listener)
  | plan (s : Session α) (kind : CallKind) (plan : Plan) :
      Transition s { s with connection := s.connection.queue kind plan }

abbrev Transitions : Session α → Session α → Prop := Relation.ReflTransGen Transition

/-- The feed with the id belongs to no watcher. -/
def Foreign (s : Session α) (id : Nat) : Prop :=
  ∀ (index : Nat) (watcher : Watcher α), s.watchers[index]? = some watcher → watcher.feed ≠ some id

/-- A transition, or a call on the registry about a feed that belongs to no watcher. -/
inductive Evolves : Session α → Session α → Prop
  | transition {s next : Session α} (transition : Transition s next) : Evolves s next
  | register (s : Session α) (name : String) :
      Evolves s { s with liveness := s.liveness.register name s.clock }
  | ping (s : Session α) (id : Nat) (foreign : s.Foreign id) : Evolves s (s.pingFeed (some id))
  | drop (s : Session α) (id : Nat) (foreign : s.Foreign id) : Evolves s (s.dropFeed (some id))

abbrev Evolution : Session α → Session α → Prop := Relation.ReflTransGen Evolves

theorem Transitions.evolution (transitions : Transitions s next) : Evolution s next := by
  induction transitions with
  | refl => exact .refl
  | tail _ transition ih => exact ih.tail (.transition transition)

/-! ## Phases -/

/-- A change is kept, and then it is delivered to one listener after the other. -/
theorem transitions_change (aimed : Aimed s) (change : Change) :
    Transitions s (s.change change) := by
  have both := @change_invariant _ s (fun now => Transitions s now ∧ Aimed now) change
    ⟨.single (.keep s change), (Move.change s change).aimed aimed⟩
    fun now version listener attached before => by
      obtain ⟨transitions, aimed⟩ := before
      have aims : now.Aims listener.address listener.sink := aimed.listener listener attached
      exact ⟨transitions.tail (.deliver now version listener aims),
        (moves_deliver version listener attached).aimed aimed⟩
  exact both.1

theorem Phase.transitions {scope : Scope} (phase : Phase scope s next) (aimed : Aimed s) :
    Transitions s next := by
  cases phase with
  | call phase =>
    cases phase with
    | change change happens => exact transitions_change aimed change
    | note event plain => exact .single (.phase (.call (.note s event plain)))
    | answer address found current => exact .single (.phase (.call (.answer s address found current)))
    | takePlan kind => exact .single (.phase (.call (.takePlan s kind)))
  | attach address sink aims fresh =>
    exact .single (.phase (.attach s address sink aims fun _ _ => trivial))
  | ask id loose => exact .single (.phase (.ask s id trivial))
  | detach id loose => exact .single (.phase (.detach s id trivial))
  | enlist request value account returned decoded fresh =>
    exact .single (.phase (.enlist s request value account returned decoded trivial))
  | hold index id fresh loose => exact .single (.phase (.hold s index id trivial trivial))
  | takeUp index request second fresh awaits returned =>
    exact .single (.phase (.takeUp s index request second trivial awaits returned))
  | retire index fresh => exact .single (.phase (.retire s index trivial))
  | leave index => exact .single (.phase (.leave s index))
  | finish index => exact .single (.phase (.finish s index))

theorem Phases.transitions {scope : Scope} (phases : Phases scope s next) (aimed : Aimed s) :
    Transitions s next := by
  induction phases with
  | refl => exact .refl
  | tail before phase ih =>
    exact ih.trans (phase.transitions ((Phases.moves before).aimed aimed))

theorem Operates.evolution {scope : Scope} {calls : Bool} {own : List Nat}
    (operates : Operates scope calls own s next) (aimed : Aimed s)
    (foreign : ∀ id ∈ own, s.Foreign id) : Evolution s next := by
  cases operates with
  | phases phases => exact (phases.transitions aimed).evolution
  | plan kind plan planned => exact .single (.transition (.plan s kind plan))
  | register called name => exact .single (.register s name)
  | ping called id mine => exact .single (.ping s id (foreign id mine))
  | drop called id mine => exact .single (.drop s id (foreign id mine))

theorem Operates.transitions {scope : Scope} {own : List Nat}
    (operates : Operates scope false own s next) (aimed : Aimed s) : Transitions s next := by
  cases operates with
  | phases phases => exact phases.transitions aimed
  | plan kind plan planned => exact .single (.plan s kind plan)
  | register called | ping called | drop called => cases called

/-! ## Kinds of transitions -/

/-- The registry stays as it is, nobody is enlisted, and what is recorded is no delivery to a
watcher. -/
structure Amends (s next : Session α) : Prop where
  liveness : next.liveness = s.liveness
  size : next.watchers.size = s.watchers.size
  unheard : ∃ added, next.events = s.events ++ added ∧
    ∀ event ∈ added, ∀ index, event.heard? index = none

theorem Amends.refl (s : Session α) : Amends s s :=
  ⟨rfl, rfl, [], (List.append_nil _).symm, nofun⟩

theorem Amends.trans {between : Session α} (first : Amends s between)
    (second : Amends between next) : Amends s next := by
  obtain ⟨added, grown, unheard⟩ := first.unheard
  obtain ⟨more, grown_too, unheard_too⟩ := second.unheard
  refine ⟨second.liveness.trans first.liveness, second.size.trans first.size, added ++ more, ?_,
    fun event member => ?_⟩
  · rw [grown_too, grown, List.append_assoc]
  · rcases List.mem_append.1 member with old | fresh
    · exact unheard event old
    · exact unheard_too event fresh

/-- Neither the registry nor the watchers nor the trace change. -/
theorem amends_of_frame (liveness : next.liveness = s.liveness) (watchers : next.watchers = s.watchers)
    (trace : next.trace = s.trace) : Amends s next :=
  ⟨liveness, congrArg Array.size watchers, [],
    by rw [List.append_nil, events, trace, events], nofun⟩

theorem amends_record {event : Event} (unheard : ∀ index, event.heard? index = none) :
    Amends s (s.record event) :=
  ⟨rfl, rfl, [event], events_record s event, List.forall_mem_singleton.2 unheard⟩

theorem amends_setWatcher (s : Session α) (index : Nat) (watcher : Watcher α) :
    Amends s (s.setWatcher index watcher) :=
  ⟨rfl, setWatcher_size index watcher, [], (List.append_nil _).symm, nofun⟩

theorem amends_setDisposal (s : Session α) (index : Nat) (disposal : Disposal) :
    Amends s (s.setDisposal index disposal) := by
  unfold setDisposal
  split
  · exact .refl s
  · exact amends_setWatcher s index _

theorem amends_log (s : Session α) (options : WatchOptions) (entry : LogRecord) :
    Amends s (s.log options entry) := by
  rw [log_eq]
  exact ⟨rfl, rfl, _, events_recordAll s _, fun event member =>
    Event.heard?_of_plain (plain_of_mem_noted member)⟩

theorem amends_takeUp (request : WatchRequest α) (second : Option Account) :
    Amends s (s.takeUp index request second).1 := by
  unfold takeUp
  split
  · exact .refl s
  · split
    · exact .refl s
    · exact ⟨rfl, setWatcher_size _ _, _, events_recordAll _ _,
        fun event member other => heard?_of_objections other event member⟩

theorem Finished.amends (finished : Finished s index next) : Amends s next := by
  cases finished with
  | nothing => exact .refl s
  | failed => exact amends_setDisposal s index _
  | @removed removed watcher id plan found listener due outcome removal =>
    have removing : Amends s removed := by
      rcases removal with rfl | rfl
      · exact .refl _
      · exact amends_of_frame rfl rfl rfl
    exact (removing.trans (amends_setDisposal removed index _)).trans (amends_log _ _ _)

/-- The kinds of transitions that the registry or a listener could tell apart. -/
inductive Effect (s : Session α) : Session α → Prop
  | amend {next : Session α} (amends : Amends s next) : Effect s next
  | deliver (version : Stored) (listener : Listener)
      (aims : s.Aims listener.address listener.sink) : Effect s (s.deliver version listener)
  | enlist (request : WatchRequest α) (value : Snapshot α) (slot : Option Int) :
      Effect s (s.enlist request value slot).1
  | retire {next : Session α} (index : Nat) (watcher after : Watcher α)
      (found : s.watchers[index]? = some watcher) (amends : Amends (s.retire index) next)
      (there : next.watchers[index]? = some after) (disposed : after.watch.disposed = true) :
      Effect s next

/-! ## Retirements -/

theorem isDisposed_of_found (found : s.watchers[index]? = some watcher) :
    s.isDisposed index = watcher.watch.disposed := by
  simp only [isDisposed, found, Option.map_some, Option.getD_some]

theorem dropFeed_watchers (feed : Option Nat) : (s.dropFeed feed).watchers = s.watchers := by
  cases feed <;> rfl

theorem retire_watchers (found : s.watchers[index]? = some watcher) :
    (s.retire index).watchers =
      (s.setWatcher index { watcher with watch := watcher.watch.dispose }).watchers := by
  simp only [Session.retire, found, setWatcher, dropFeed_watchers]

theorem getElem?_of_set {changed : Watcher α} (found : s.watchers[index]? = some watcher)
    (set : next.watchers = (s.setWatcher index changed).watchers) :
    next.watchers[index]? = some changed := by
  rw [set, getElem?_setWatcher, if_pos rfl, if_pos (lt_size_of_found found)]

theorem retire_found (found : s.watchers[index]? = some watcher) :
    (s.retire index).watchers[index]? = some { watcher with watch := watcher.watch.dispose } :=
  getElem?_of_set found (retire_watchers found)

theorem retire_liveness (found : s.watchers[index]? = some watcher) :
    (s.retire index).liveness = (s.dropFeed watcher.feed).liveness := by
  simp only [Session.retire, found]
  rfl

theorem retire_events (s : Session α) (index : Nat) : (s.retire index).events = s.events := by
  unfold retire
  split
  · rfl
  · rename_i watcher _
    cases watcher.feed <;> rfl

theorem setDisposal_watchers (found : s.watchers[index]? = some watcher) (disposal : Disposal) :
    (s.setDisposal index disposal).watchers =
      (s.setWatcher index { watcher with disposal := some disposal }).watchers := by
  simp only [setDisposal, found]

/-- A watcher that retires and whose disposal is noted. -/
theorem retire_setDisposal_watchers (found : s.watchers[index]? = some watcher)
    (disposal : Disposal) : ((s.retire index).setDisposal index disposal).watchers =
      (s.setWatcher index
        { watcher with watch := watcher.watch.dispose, disposal := some disposal }).watchers := by
  rw [setDisposal_watchers (retire_found found)]
  simp only [setWatcher, retire_watchers found, Array.setIfInBounds_setIfInBounds]

theorem Left.effect (left : Left s index next) : Effect s next := by
  cases left with
  | nothing => exact .amend (.refl s)
  | asked found =>
    exact .retire index _ _ found
      ((amends_setDisposal _ index _).trans (amends_record fun _ => rfl))
      (getElem?_of_set found (retire_setDisposal_watchers found _)) rfl
  | unheard found =>
    exact .retire index _ _ found (amends_setDisposal _ index _)
      (getElem?_of_set found (retire_setDisposal_watchers found _)) rfl

theorem Transition.effect (transition : Transition s next) : Effect s next := by
  cases transition with
  | keep change =>
    refine .amend ⟨?_, ?_, [.changed change], events_changed s change,
      List.forall_mem_singleton.2 fun _ => rfl⟩
    · cases change <;> rfl
    · rw [keep_watchers]
      rfl
  | deliver version listener aims => exact .deliver version listener aims
  | plan kind plan => exact .amend (amends_of_frame rfl rfl rfl)
  | phase phase =>
    cases phase with
    | call phase =>
      cases phase with
      | change change happens => exact happens.elim
      | note event plain => exact .amend (amends_record (Event.heard?_of_plain plain))
      | answer address found current => exact .amend (amends_record fun _ => rfl)
      | takePlan kind => exact .amend (amends_of_frame rfl rfl rfl)
    | attach address sink aims fresh =>
      exact .amend ⟨rfl, rfl, _, events_attachListener s address sink,
        List.forall_mem_singleton.2 fun _ => rfl⟩
    | ask id loose => exact .amend (amends_record fun _ => rfl)
    | detach id loose => exact .amend (amends_of_frame rfl rfl rfl)
    | enlist request value account returned decoded fresh => exact .enlist request value account.slot
    | hold position id fresh loose =>
      refine .amend ?_
      unfold holdListener
      split
      · exact .refl s
      · exact amends_setWatcher s position _
    | takeUp position request second fresh awaits returned =>
      exact .amend (amends_takeUp request second)
    | retire position fresh =>
      cases found : s.watchers[position]? with
      | some watcher =>
        exact .retire position watcher _ found (.refl _) (retire_found found) rfl
      | none =>
        have nobody : s.retire position = s := by simp only [Session.retire, found]
        exact nobody.symm ▸ .amend (.refl s)
    | leave position => exact (s.leave_cases position).effect
    | finish position => exact .amend (s.finish_cases position).amends

/-! ## What becomes of a watcher -/

end Session

/-- How a disposal will end or has ended. -/
def Disposal.promised : Disposal → Except Fault Unit
  | .pending plan => plan.outcome
  | .settled outcome => outcome

/-- What no transition changes of a watcher: its request and its feed, its watch once it is disposed,
and the outcome of its disposal once that has begun.  A disposal that is settled stays so. -/
structure Watcher.Continues (watcher after : Watcher α) : Prop where
  request : after.request = watcher.request
  feed : after.feed = watcher.feed
  watch : watcher.watch.disposed = true → after.watch = watcher.watch
  listener : watcher.listener.isSome = true → after.listener.isSome = true
  promised : ∀ begun, watcher.disposal = some begun →
    ∃ later, after.disposal = some later ∧ later.promised = begun.promised
  settled : ∀ outcome, watcher.disposal = some (.settled outcome) →
    after.disposal = some (.settled outcome)

namespace Watcher

variable {watcher between after : Watcher α}

theorem Continues.refl (watcher : Watcher α) : Continues watcher watcher :=
  ⟨rfl, rfl, fun _ => rfl, id, fun begun noted => ⟨begun, noted, rfl⟩, fun _ => id⟩

theorem Continues.trans (first : Continues watcher between) (second : Continues between after) :
    Continues watcher after where
  request := second.request.trans first.request
  feed := second.feed.trans first.feed
  watch gone := by
    have same := first.watch gone
    exact (second.watch (same ▸ gone)).trans same
  listener := second.listener ∘ first.listener
  promised begun noted := by
    obtain ⟨meanwhile, noted, same⟩ := first.promised begun noted
    obtain ⟨later, noted, same_too⟩ := second.promised meanwhile noted
    exact ⟨later, noted, same_too.trans same⟩
  settled outcome := second.settled outcome ∘ first.settled outcome

theorem dispose_of_disposed {watch : Watch (Snapshot α)} (gone : watch.disposed = true) :
    watch.dispose = watch := by
  rcases watch with ⟨cell, slot, disposed⟩
  obtain rfl : disposed = true := gone
  rfl

/-- A watcher that retires. -/
theorem continues_retire (watcher : Watcher α) :
    Continues watcher { watcher with watch := watcher.watch.dispose } :=
  { Continues.refl watcher with watch := dispose_of_disposed }

/-- The first disposal of a watcher. -/
theorem continues_leave (first : watcher.disposal = none) (disposal : Disposal) :
    Continues watcher
      { watcher with watch := watcher.watch.dispose, disposal := some disposal } :=
  { Continues.refl watcher with
    watch := dispose_of_disposed
    promised := by
      intro begun noted
      cases first.symm.trans noted
    settled := by
      intro outcome noted
      cases first.symm.trans noted }

/-- A disposal ends as it was to end. -/
theorem continues_finish {plan : Plan} {outcome : Except Fault Unit}
    (due : watcher.disposal = some (.pending plan)) (ends : plan.outcome = outcome) :
    Continues watcher { watcher with disposal := some (.settled outcome) } :=
  { Continues.refl watcher with
    promised := by
      intro begun noted
      cases due.symm.trans noted
      exact ⟨_, rfl, ends.symm⟩
    settled := by
      intro other noted
      cases due.symm.trans noted }

end Watcher

namespace Session

variable {s next : Session α} {index : Nat} {watcher after : Watcher α}

/-- A watcher after a transition, which may be the one that retires it. -/
inductive Becomes (s next : Session α) (watcher after : Watcher α) : Prop
  | kept (continues : watcher.Continues after)
      (disposed : after.watch.disposed = watcher.watch.disposed)
  | retired (continues : watcher.Continues after) (watch : after.watch = watcher.watch.dispose)
      (liveness : next.liveness = (s.dropFeed watcher.feed).liveness)

theorem Becomes.continues (becomes : Becomes s next watcher after) : watcher.Continues after := by
  cases becomes with
  | kept continues => exact continues
  | retired continues => exact continues

theorem becomes_of_same (same : next.watchers[index]? = s.watchers[index]?)
    (found : s.watchers[index]? = some watcher) :
    ∃ after, next.watchers[index]? = some after ∧ Becomes s next watcher after :=
  ⟨watcher, same.trans found, .kept (.refl watcher) rfl⟩

/-- One watcher is set. -/
theorem becomes_of_set {position : Nat} {there changed : Watcher α}
    (known : s.watchers[position]? = some there)
    (set : next.watchers = (s.setWatcher position changed).watchers)
    (becomes : Becomes s next there changed) (found : s.watchers[index]? = some watcher) :
    ∃ after, next.watchers[index]? = some after ∧ Becomes s next watcher after := by
  rw [set, getElem?_setWatcher]
  by_cases same : position = index
  · subst same
    obtain rfl : there = watcher := Option.some.inj (known.symm.trans found)
    exact ⟨changed, by rw [if_pos rfl, if_pos (lt_size_of_found found)], becomes⟩
  · exact ⟨watcher, by rw [if_neg same, found], .kept (.refl watcher) rfl⟩

theorem notify_of_disposed {request : WatchRequest α} {watch : Watch (Snapshot α)}
    (disposed : watch.disposed = true) (now : Int) (account : Account) :
    watch.notify request.format.decode now account = (watch, .ignored) := by
  simp only [Watch.notify, disposed, if_true]

theorem becomes_deliver (version : Stored) (listener : Listener)
    (found : s.watchers[index]? = some watcher) :
    ∃ after, (s.deliver version listener).watchers[index]? = some after ∧
      Becomes s (s.deliver version listener) watcher after := by
  rcases s.deliver_cases version listener with ⟨position, there, sink, known⟩ | ⟨_, recorded⟩
  · let told := there.watch.notify there.request.format.decode s.clock
      (version.account listener.address)
    have set : (s.deliver version listener).watchers =
        (s.setWatcher position { there with watch := told.1 }).watchers := by
      rw [deliver_eq sink known]
      show (s.pingWatcher there).watchers.setIfInBounds position _ = _
      rw [pingWatcher_watchers]
      rfl
    have continues : there.Continues { there with watch := told.1 } :=
      { Watcher.Continues.refl there with
        watch := fun gone => congrArg Prod.fst (notify_of_disposed gone s.clock _) }
    exact becomes_of_set known set (.kept continues Watch.disposed_notify) found
  · rw [recorded]
    exact becomes_of_same rfl found

theorem becomes_takeUp {position : Nat} {request : WatchRequest α} (second : Option Account)
    (awaits : s.Awaits position request) (found : s.watchers[index]? = some watcher) :
    ∃ after, (s.takeUp position request second).1.watchers[index]? = some after ∧
      Becomes s (s.takeUp position request second).1 watcher after := by
  obtain ⟨there, known, _, live⟩ := awaits
  cases second with
  | none => exact becomes_of_same rfl found
  | some account =>
    simp only [takeUp, known]
    refine becomes_of_set known rfl (.kept ?_ Watch.disposed_catchUp) found
    exact { Watcher.Continues.refl there with
      watch := fun gone => absurd gone (ne_of_eq_of_ne live Bool.false_ne_true) }

theorem becomes_retire (position : Nat) (found : s.watchers[index]? = some watcher) :
    ∃ after, (s.retire position).watchers[index]? = some after ∧
      Becomes s (s.retire position) watcher after := by
  cases known : s.watchers[position]? with
  | none =>
    have nobody : s.retire position = s := by simp only [Session.retire, known]
    exact nobody.symm ▸ becomes_of_same rfl found
  | some there =>
    exact becomes_of_set known (retire_watchers known)
      (.retired (Watcher.continues_retire there) rfl (retire_liveness known)) found

theorem Left.becomes {position : Nat} (left : Left s position next)
    (found : s.watchers[index]? = some watcher) :
    ∃ after, next.watchers[index]? = some after ∧ Becomes s next watcher after := by
  cases left with
  | nothing => exact becomes_of_same rfl found
  | @asked there id known listener first =>
    refine becomes_of_set known (retire_setDisposal_watchers known _)
      (.retired (Watcher.continues_leave first _) rfl ?_) found
    exact (amends_setDisposal _ position _).liveness.trans (retire_liveness known)
  | @unheard there known listener first =>
    refine becomes_of_set known (retire_setDisposal_watchers known _)
      (.retired (Watcher.continues_leave first _) rfl ?_) found
    exact (amends_setDisposal _ position _).liveness.trans (retire_liveness known)

theorem Finished.becomes {position : Nat} (finished : Finished s position next)
    (found : s.watchers[index]? = some watcher) :
    ∃ after, next.watchers[index]? = some after ∧ Becomes s next watcher after := by
  cases finished with
  | nothing => exact becomes_of_same rfl found
  | failed known due outcome =>
    exact becomes_of_set known (setDisposal_watchers known _)
      (.kept (Watcher.continues_finish due outcome) rfl) found
  | @removed removed there id plan known listener due outcome removal =>
    have watchers : removed.watchers = s.watchers := by rcases removal with rfl | rfl <;> rfl
    refine becomes_of_set known ?_ (.kept (Watcher.continues_finish due outcome) rfl) found
    rw [log_eq]
    refine (setDisposal_watchers (watchers ▸ known) _).trans ?_
    simp only [setWatcher, watchers]

theorem Transition.becomes (transition : Transition s next)
    (found : s.watchers[index]? = some watcher) :
    ∃ after, next.watchers[index]? = some after ∧ Becomes s next watcher after := by
  cases transition with
  | keep change => exact becomes_of_same (by rw [keep_watchers]; rfl) found
  | deliver version listener aims => exact becomes_deliver version listener found
  | plan kind plan => exact becomes_of_same rfl found
  | phase phase =>
    cases phase with
    | call phase =>
      cases phase with
      | change change happens => exact happens.elim
      | note | answer | takePlan => exact becomes_of_same rfl found
    | attach | ask | detach => exact becomes_of_same rfl found
    | enlist request value account returned decoded fresh =>
      exact becomes_of_same (getElem?_enlist _ _ _ _ (lt_size_of_found found)) found
    | hold position id fresh loose =>
      unfold holdListener
      split
      · exact becomes_of_same rfl found
      · rename_i there known
        refine becomes_of_set known rfl (.kept ?_ rfl) found
        exact { Watcher.Continues.refl there with listener := fun _ => rfl }
    | takeUp position request second fresh awaits returned => exact becomes_takeUp second awaits found
    | retire position fresh => exact becomes_retire position found
    | leave position => exact (s.leave_cases position).becomes found
    | finish position => exact (s.finish_cases position).becomes found

/-- A watcher that was not there before was enlisted. -/
theorem Transition.born (transition : Transition s next) (absent : s.watchers[index]? = none)
    (found : next.watchers[index]? = some watcher) :
    index = s.watchers.size ∧ ∃ request value slot, next = (s.enlist request value slot).1 := by
  have outside : ¬ index < s.watchers.size := Nat.not_lt.2 (Array.getElem?_eq_none_iff.1 absent)
  have unchanged (size : next.watchers.size = s.watchers.size) : False :=
    outside (size ▸ lt_size_of_found found)
  cases transition.effect with
  | amend amends => exact (unchanged amends.size).elim
  | deliver version listener aims => exact (unchanged (deliver_size version listener)).elim
  | enlist request value slot =>
    have size : (s.enlist request value slot).1.watchers.size = s.watchers.size + 1 :=
      Array.size_push ..
    have inside := lt_size_of_found found
    exact ⟨by omega, request, value, slot, rfl⟩
  | retire position there gone known amends =>
    exact (unchanged (amends.size.trans (retire_size position))).elim

/-! ## Aims -/

theorem aimed_deliver (aimed : Aimed s) (version : Stored) {listener : Listener}
    (aims : s.Aims listener.address listener.sink) : Aimed (s.deliver version listener) where
  listener := by
    intro other attached position sink
    rw [deliver_connection] at attached
    obtain ⟨watcher, found, placed⟩ := aimed.listener other attached position sink
    obtain ⟨after, there, becomes⟩ := becomes_deliver version listener found
    exact ⟨after, there, becomes.continues.request ▸ placed⟩
  unheard := by
    intro position outside
    rw [deliver_size] at outside
    obtain ⟨said, plain, grown⟩ := s.deliver_events version listener
    have elsewhere : listener.sink ≠ .watcher position := by
      intro sink
      obtain ⟨watcher, found, _⟩ := aims position sink
      exact Nat.not_lt.2 outside (lt_size_of_found found)
    have unheard : (Event.delivered s.clock listener
        (version.account listener.address)).heard? position = none := if_neg elsewhere
    rw [grown, heardBy_append, aimed.unheard position outside, List.nil_append]
    exact heardBy_eq_nil (List.forall_mem_cons.2
      ⟨unheard, fun event member => Event.heard?_of_plain (plain event member) position⟩)

theorem Transition.aimed (transition : Transition s next) (aimed : Aimed s) : Aimed next := by
  cases transition with
  | phase phase => exact (Phase.moves phase).aimed aimed
  | keep change => exact (Move.change s change).aimed aimed
  | deliver version listener aims => exact aimed_deliver aimed version aims
  | plan kind plan => exact ⟨aimed.listener, aimed.unheard⟩

theorem Evolves.aimed (evolves : Evolves s next) (aimed : Aimed s) : Aimed next := by
  cases evolves with
  | transition transition => exact transition.aimed aimed
  | register | ping | drop => exact ⟨aimed.listener, aimed.unheard⟩

theorem Evolution.aimed (evolution : Evolution s next) (aimed : Aimed s) : Aimed next := by
  induction evolution with
  | refl => exact aimed
  | tail _ evolves ih => exact evolves.aimed ih

/-! ## From one moment to a later one -/

theorem Evolves.becomes (evolves : Evolves s next) (found : s.watchers[index]? = some watcher) :
    ∃ after, next.watchers[index]? = some after ∧ Becomes s next watcher after := by
  cases evolves with
  | transition transition => exact transition.becomes found
  | register | ping | drop => exact becomes_of_same rfl found

theorem Evolves.born (evolves : Evolves s next) (absent : s.watchers[index]? = none)
    (found : next.watchers[index]? = some watcher) :
    index = s.watchers.size ∧ ∃ request value slot, next = (s.enlist request value slot).1 := by
  have unchanged (same : next.watchers = s.watchers) : False := by
    rw [same, absent] at found
    cases found
  cases evolves with
  | transition transition => exact transition.born absent found
  | register | ping | drop => exact (unchanged rfl).elim

theorem Evolution.continues (evolution : Evolution s next)
    (found : s.watchers[index]? = some watcher) :
    ∃ after, next.watchers[index]? = some after ∧ watcher.Continues after := by
  induction evolution with
  | refl => exact ⟨watcher, found, .refl watcher⟩
  | tail _ evolves ih =>
    obtain ⟨between, there, continues⟩ := ih
    obtain ⟨after, later, becomes⟩ := evolves.becomes there
    exact ⟨after, later, continues.trans becomes.continues⟩

/-! ## What becomes of the registry -/

/-- A delivery pings the feed of a watcher that is not disposed. -/
theorem deliver_liveness {listener : Listener} (sink : listener.sink = .watcher index)
    (found : s.watchers[index]? = some watcher) (version : Stored) :
    (s.deliver version listener).liveness = (s.pingWatcher watcher).liveness := by
  rw [deliver_eq sink found]
  rfl

/-- What a transition does to the registry.  A ping is that of a delivery to a watcher that is not
disposed, and a feed is dropped when its watcher retires. -/
inductive RegistryEffect (s next : Session α) : Prop
  | nothing (same : next.liveness = s.liveness)
  | register (name : String) (made : next.liveness = s.liveness.register name s.clock)
  | ping (index : Nat) (watcher : Watcher α) (id : Nat) (version : Stored) (listener : Listener)
      (found : s.watchers[index]? = some watcher) (feed : watcher.feed = some id)
      (live : watcher.watch.disposed = false) (sink : listener.sink = .watcher index)
      (told : next = s.deliver version listener) (made : next.liveness = s.liveness.ping id s.clock)
  | drop (index : Nat) (watcher : Watcher α) (id : Nat) (found : s.watchers[index]? = some watcher)
      (feed : watcher.feed = some id)
      (retired : ∀ after : Watcher α, next.watchers[index]? = some after →
        after.watch.disposed = true)
      (made : next.liveness = s.liveness.drop id)

theorem registryEffect_deliver (version : Stored) (listener : Listener) :
    RegistryEffect s (s.deliver version listener) := by
  rcases s.deliver_cases version listener with ⟨position, there, sink, known⟩ | ⟨_, recorded⟩
  · have pinged := deliver_liveness sink known version
    unfold pingWatcher at pinged
    split at pinged
    · exact .nothing pinged
    · rename_i live
      cases feed : there.feed with
      | none =>
        rw [feed] at pinged
        exact .nothing pinged
      | some id =>
        rw [feed] at pinged
        exact .ping position there id version listener known feed (Bool.eq_false_iff.2 live) sink
          rfl pinged
  · rw [recorded]
    exact .nothing rfl

theorem Transition.registryEffect (transition : Transition s next) : RegistryEffect s next := by
  cases transition.effect with
  | amend amends => exact .nothing amends.liveness
  | deliver version listener aims => exact registryEffect_deliver version listener
  | enlist request value slot =>
    cases given : request.options.liveness with
    | false => exact .nothing (by simp [Session.enlist, given])
    | true => exact .register request.name (by simp [Session.enlist, given])
  | retire position there after known amends found disposed =>
    have dropped := amends.liveness.trans (retire_liveness known)
    cases feed : there.feed with
    | none =>
      rw [feed] at dropped
      exact .nothing dropped
    | some id =>
      rw [feed] at dropped
      refine .drop position there id known feed (fun other found_too => ?_) dropped
      obtain rfl : after = other := Option.some.inj (found.symm.trans found_too)
      exact disposed

/-- The registry changes by calls on it, and by nothing else. -/
theorem RegistryEffect.calls (effect : RegistryEffect s next) :
    ∃ calls, next.liveness = s.liveness.after calls := by
  cases effect with
  | nothing same => exact ⟨[], same⟩
  | register name made => exact ⟨[.register name s.clock], made⟩
  | ping index watcher id version listener found feed live sink told made =>
    exact ⟨[.ping id s.clock], made⟩
  | drop index watcher id found feed retired made => exact ⟨[.drop id], made⟩

theorem Evolves.calls (evolves : Evolves s next) :
    ∃ calls, next.liveness = s.liveness.after calls := by
  cases evolves with
  | transition transition => exact transition.registryEffect.calls
  | register name => exact ⟨[.register name s.clock], rfl⟩
  | ping id foreign => exact ⟨[.ping id s.clock], rfl⟩
  | drop id foreign => exact ⟨[.drop id], rfl⟩

theorem Evolution.calls (evolution : Evolution s next) :
    ∃ calls, next.liveness = s.liveness.after calls := by
  induction evolution with
  | refl => exact ⟨[], rfl⟩
  | tail _ evolves ih =>
    obtain ⟨earlier, before⟩ := ih
    obtain ⟨later, after⟩ := evolves.calls
    exact ⟨earlier ++ later, by rw [after, before, Liveness.after_append]⟩

end Session

/-! ## Steps and runs -/

namespace Script

open Session

variable {script : Script α} {started disposed : Nat → Prop}

/-- The feeds that a script registers itself belong to no watcher. -/
theorem Keeps.foreign (kept : script.Keeps started disposed) {id : Nat}
    (mine : id ∈ script.feeds.toList) : script.session.Foreign id := by
  intro index watcher found taken
  exact (kept.sound.feeds.leases index _ (custody_tenure found)).apart id taken mine

theorem evolution_step (kept : script.Keeps started disposed) (aimed : Aimed script.session)
    (step : Step α) : Evolution script.session (script.step step).1.session :=
  (operates_step (admits_any script.session) step.allows_any fun _ _ => trivial).evolution aimed
    fun _ => kept.foreign

/-- All of a step that is no call on the registry. -/
theorem transitions_step (aimed : Aimed script.session) {step : Step α}
    (inner : step.callsRegistry = false) :
    Transitions script.session (script.step step).1.session := by
  have operates := operates_step (admits_any script.session) step.allows_any fun _ _ => trivial
  rw [inner] at operates
  exact operates.transitions aimed

theorem evolution_run (kept : script.Keeps started disposed) (aimed : Aimed script.session)
    (steps : List (Step α)) : Evolution script.session (script.run steps).session := by
  induction steps generalizing script started disposed with
  | nil => exact .refl
  | cons step rest ih =>
    exact (evolution_step kept aimed step).trans
      (ih (keeps_step kept step) ((moves_step script step).aimed aimed))

theorem Reached.aimed (reached : script.Reached) : Aimed script.session :=
  reached.invariant aimed_start fun _ _ move => move.aimed

theorem Reached.run (reached : script.Reached) (steps : List (Step α)) :
    (script.run steps).Reached := by
  obtain ⟨clock, allowedSilence, commitment, origins, earlier, rfl⟩ := reached
  exact ⟨clock, allowedSilence, commitment, origins, earlier ++ steps, List.foldl_append.symm⟩

section Begun

variable {clock allowedSilence : Int} {commitment : Commitment} {origins : List String}

theorem keeps_begun (begun : script = start (.start clock allowedSilence commitment) origins)
    (steps : List (Step α)) :
    (script.run steps).Keeps (script.Started steps) (script.Disposed steps) := by
  subst begun
  exact keeps_run (keeps_start ..) steps

theorem reached_begun (begun : script = start (.start clock allowedSilence commitment) origins)
    (steps : List (Step α)) : (script.run steps).Reached :=
  ⟨clock, allowedSilence, commitment, origins, steps, begun ▸ rfl⟩

end Begun

theorem Reached.keeps (reached : script.Reached) :
    ∃ started disposed, script.Keeps started disposed := by
  obtain ⟨clock, allowedSilence, commitment, origins, steps, rfl⟩ := reached
  exact ⟨_, _, keeps_begun rfl steps⟩

/-- A script that is reached has evolved from a start. -/
theorem Reached.evolution (reached : script.Reached) : ∃ clock allowedSilence commitment,
    Evolution (.start clock allowedSilence commitment) script.session := by
  obtain ⟨clock, allowedSilence, commitment, origins, steps, rfl⟩ := reached
  exact ⟨clock, allowedSilence, commitment, evolution_run
    (keeps_start clock allowedSilence commitment origins)
    (aimed_start clock allowedSilence commitment) steps⟩

/-- What holds at every start and survives everything by which a session evolves holds at every
moment. -/
theorem Reached.throughout {holds : Session α → Prop} (reached : script.Reached) {now : Session α}
    (moment : Evolution script.session now)
    (first : ∀ clock allowedSilence commitment, holds (.start clock allowedSilence commitment))
    (kept : ∀ s next, Evolves s next → holds s → holds next) : holds now := by
  obtain ⟨clock, allowedSilence, commitment, before⟩ := reached.evolution
  have evolution := before.trans moment
  clear moment before
  induction evolution with
  | refl => exact first clock allowedSilence commitment
  | tail _ evolves ih => exact kept _ _ evolves ih

end Script
end SlabBook

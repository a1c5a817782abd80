import SlabBook.Proofs.StartedSides
import SlabBook.Proofs.Views

/-!
# The sides of a book are independent

Once a book is started, what can be told of one of its sides does not depend on the other one:
neither the values that are read of it, nor what is decided on each update of it, nor what a report
says of its feed.  All of this follows from what is announced at the side's own address and from its
own disposal, whatever else happens in between, is lost, comes in another order or fails.

* `Script.upTo_announced` — what a step is to a side, if no plan announces anything at its address;
* `Script.observations_eq` — what can be told of a side follows from the steps that concern it;
* `Script.sides_independent` — what this comes to for a book, whose value is always the pair of its
  sides.
-/

namespace SlabBook

variable {α : Type}

/-- What can be told of a side of a book: a value that was read, or what a report says of its feed. -/
inductive Observation (α : Type) where
  | value (value : Value α)
  | feed (status : Option FeedStatus)

def Change.isAdvance : Change → Bool
  | .advance _ => true
  | _ => false

namespace Step

variable {side : StartedSide}

/-- The time after the step. -/
def clock (now : Int) : Step α → Int
  | .change made => made.clock now
  | _ => now

/-- What the step by itself is to a side of a book: an announcement at its address, or its disposal,
alone or with the whole book. -/
def incident? (side : StartedSide) (now : Int) : Step α → Option Incident
  | .change made =>
    (made.announced? side.address).map fun version => .heard now (version.account side.address)
  | .dispose handle part | .startDisposal handle part =>
    if handle = side.handle ∧ (part = none ∨ part = some side.part) then some .disposal else none
  | _ => none

/-- What the steps by themselves are to a side of a book. -/
def schedule (side : StartedSide) (now : Int) : List (Step α) → List Incident
  | [] => []
  | step :: rest => (step.incident? side now).toList ++ schedule side (step.clock now) rest

/-- What an answer tells of a side of a book. -/
def observation? (side : StartedSide) : Step α → Except Fault (Answer α) → Option (Observation α)
  | .latest handle part, .ok (.value value) =>
    if handle = side.handle ∧ part = some side.part then some (.value value) else none
  | .report, .ok (.report told) => some (.feed (side.feed.bind told.status?))
  | _, _ => none

/-- The step is something to the side, tells something of it, or moves the clock. -/
def concerns (side : StartedSide) : Step α → Bool
  | .change made => made.isAdvance || (made.announced? side.address).isSome
  | .report => true
  | .latest handle part => handle = side.handle ∧ part = some side.part
  | step => (step.incident? side 0).isSome

/-- The step announces something at the side's address, plans anything for the calls to come, or
disposes the side alone, at once or bit by bit. -/
def Touches (side : StartedSide) : Step α → Prop
  | .change made => made.announced? side.address ≠ none
  | .plan _ _ => True
  | .dispose handle part | .startDisposal handle part | .finishDisposal handle part =>
    handle = side.handle ∧ part = some side.part
  | _ => False

theorem incident?_eq_none_of_concerns {step : Step α} (aloof : step.concerns side = false)
    (now : Int) : step.incident? side now = none ∧ step.clock now = now := by
  cases step with
  | change made =>
    simp only [concerns, Bool.or_eq_false_iff, Option.isSome_eq_false_iff,
      Option.isNone_iff_eq_none] at aloof
    refine ⟨by rw [incident?, aloof.2, Option.map_none], ?_⟩
    cases made with
    | advance elapsed => cases aloof.1
    | _ => rfl
  | dispose handle part | startDisposal handle part =>
    simp only [concerns, incident?, Option.isSome_eq_false_iff, Option.isNone_iff_eq_none] at aloof
    exact ⟨aloof, rfl⟩
  | _ => exact ⟨rfl, rfl⟩

/-- Only what concerns a side matters to it. -/
theorem schedule_filter (side : StartedSide) (now : Int) (steps : List (Step α)) :
    schedule side now (steps.filter (concerns side)) = schedule side now steps := by
  induction steps generalizing now with
  | nil => rfl
  | cons step rest ih =>
    cases concerning : step.concerns side with
    | true => rw [List.filter_cons_of_pos concerning, schedule, schedule, ih]
    | false =>
      obtain ⟨nothing, still⟩ := incident?_eq_none_of_concerns concerning now
      rw [List.filter_cons_of_neg (by simp [concerning]), ih, schedule, nothing, still]
      rfl

end Step

namespace WatcherState

variable {side : StartedSide} {state : WatcherState α}

/-- What a look at a state tells. -/
def observation? (state : WatcherState α) (side : StartedSide) (allowedSilence now : Int) :
    Step α → Option (Observation α)
  | .latest handle part =>
    if handle = side.handle ∧ part = some side.part then
      some (.value (.snapshot state.watch.latest))
    else none
  | .report => some (.feed (state.feed.map fun feed => feed.status allowedSilence now))
  | _ => none

/-- What can be told of a state while it goes through the steps by themselves. -/
def observations (state : WatcherState α) (side : StartedSide) (allowedSilence now : Int) :
    List (Step α) → List (Observation α)
  | [] => []
  | step :: rest =>
    (state.observation? side allowedSilence now step).toList ++
      (state.after (step.incident? side now).toList).observations side allowedSilence
        (step.clock now) rest

theorem observations_filter (state : WatcherState α) (side : StartedSide) (allowedSilence now : Int)
    (steps : List (Step α)) :
    state.observations side allowedSilence now (steps.filter (Step.concerns side)) =
      state.observations side allowedSilence now steps := by
  induction steps generalizing state now with
  | nil => rfl
  | cons step rest ih =>
    cases concerning : step.concerns side with
    | true => rw [List.filter_cons_of_pos concerning, observations, observations, ih]
    | false =>
      obtain ⟨nothing, still⟩ := Step.incident?_eq_none_of_concerns concerning now
      have unseen : state.observation? side allowedSilence now step = none := by
        cases step with
        | latest handle part =>
          simp only [Step.concerns, decide_eq_false_iff_not] at concerning
          exact if_neg concerning
        | report => cases concerning
        | _ => rfl
      rw [List.filter_cons_of_neg (by simp [concerning]), ih, observations, nothing, still, unseen]
      rfl

end WatcherState

namespace Script

open Session

variable {script : Script α} {step : Step α} {steps others : List (Step α)} {side : StartedSide}
  {state : WatcherState α}

theorem allowedSilence_step (reached : script.Reached) (step : Step α) :
    (script.step step).1.session.liveness.allowedSilence =
      script.session.liveness.allowedSilence := by
  obtain ⟨started, disposed, kept⟩ := reached.keeps
  obtain ⟨calls, made⟩ := (evolution_step kept reached.aimed step).calls
  rw [made, Liveness.allowedSilence_after]

/-! ## What a step announces -/

/-- The watcher of a side is disposed with its part and with the whole book, through its own handle. -/
theorem SideState.mem_disposals_iff {allowed : Change → Prop}
    (current : script.SideState allowed side state) (handle : Nat) (part : Option Part) :
    side.index ∈ script.disposals handle part ↔
      handle = side.handle ∧ (part = none ∨ part = some side.part) := by
  by_cases own : handle = side.handle
  · subst own
    have apart := current.apart
    rcases side with ⟨handle, book, kind, address, listener, feed⟩
    have known : script.source? handle = some (.book book) := current.known
    simp only [disposals, known, true_and]
    cases kind <;> rcases part with _ | _ | _ | _ <;>
      simp_all [targets, StartedSide.index, StartedSide.part, BookWatchers.side, SideKind.part,
        eq_comm]
  · refine iff_of_false (fun member => own ?_) fun both => own both.1
    unfold disposals at member
    split at member
    · cases member
    · rename_i source known
      exact current.sole handle source known (mem_watchers_of_targets member)

theorem SideState.mem_disposes_iff {allowed : Change → Prop}
    (current : script.SideState allowed side state) (now : Int) :
    side.index ∈ script.disposes step ↔ step.incident? side now = some .disposal := by
  cases step with
  | dispose handle part | startDisposal handle part =>
    rw [disposes, current.mem_disposals_iff, Step.incident?]
    split <;> simp_all
  | change made => simp [disposes, Step.incident?]
  | _ => simp [disposes, Step.incident?]

theorem clock_change (s : Session α) (change : Change) :
    (s.change change).clock = change.clock s.clock := by
  refine @change_invariant _ s (fun now => now.clock = change.clock s.clock) change ?_
    fun now version listener _ same => (deliver_clock version listener).trans same
  cases change <;> rfl

/-- A change that comes as a step may be announced at the address of the side itself. -/
theorem announced_change (current : script.SideState (Change.Silent side.address) side state)
    (change : Change) : script.announced side (.change change) =
      ((Step.change change : Step α).incident? side script.session.clock).toList := by
  obtain ⟨started, disposed, kept⟩ := current.reached.keeps
  obtain ⟨added, undergoes, announced, _⟩ :=
    @undergoes_change _ side.index side.listener _ _ kept.sound.feeds change
  have same : script.added (.change change) = added := added_of_undergoes undergoes
  rw [Script.announced, same, announced, Step.incident?]
  cases change.announced? side.address <;> rfl

/-- Any other step announces nothing there, if no plan does, and it does not move the clock.  The
watcher hears of nothing but the request for the removal of its listener, which only a disposal makes. -/
theorem hears_of_silent (current : script.SideState (Change.Silent side.address) side state)
    (queues : step.Queues (Change.Silent side.address)) (other : ∀ change, step ≠ .change change) :
    (script.step step).1.session.clock = script.session.clock ∧
      (∀ incident ∈ script.announced side step, incident = .disposal) ∧
      (state.watch.disposed = false → (.disposal ∈ script.announced side step ↔
        side.index ∈ script.disposes step)) := by
  obtain ⟨started, disposed, kept⟩ := current.reached.keeps
  obtain ⟨_, added, hears⟩ :=
    hears_step kept current.holding ⟨fun change same => absurd same (other change), queues⟩
  obtain rfl : script.added step = added := added_of_undergoes hears.toUndergoes
  obtain ⟨only, still⟩ :=
    @announcements_of_silent side.listener _ _ hears.happens script.session.clock
  refine ⟨hears.clock.trans still, only, fun live => ?_⟩
  have live_before := current.isDisposed.trans live
  rw [announced, ← mem_upTo_iff, ← hears.heard side.address current.listens live_before,
    mem_upTo_iff, ← current.isDisposed_step live_before,
    hears.isDisposed current.holding.lt_size, live_before]
  simp

theorem clock_step (current : script.SideState (Change.Silent side.address) side state)
    (queues : step.Queues (Change.Silent side.address)) :
    (script.step step).1.session.clock = step.clock script.session.clock := by
  by_cases made : ∃ change, step = .change change
  · obtain ⟨change, rfl⟩ := made
    exact clock_change script.session change
  · have other := not_exists.1 made
    rw [(hears_of_silent current queues other).1]
    cases step with
    | change change => exact absurd rfl (other change)
    | _ => rfl

/-- If no plan announces anything at the address of a side, a step announces there what it is to the
side by itself. -/
theorem upTo_announced (current : script.SideState (Change.Silent side.address) side state)
    (queues : step.Queues (Change.Silent side.address)) (live : state.watch.disposed = false) :
    upTo .disposal (script.announced side step) =
      upTo .disposal (step.incident? side script.session.clock).toList := by
  by_cases made : ∃ change, step = .change change
  · obtain ⟨change, rfl⟩ := made
    rw [announced_change current]
  · have other := not_exists.1 made
    obtain ⟨_, only, disposal⟩ := hears_of_silent current queues other
    have iff := (disposal live).trans (current.mem_disposes_iff script.session.clock)
    rw [upTo_of_forall fun item member => only item (mem_of_mem_upTo member)]
    by_cases disposing : step.incident? side script.session.clock = some .disposal
    · rw [if_pos (iff.2 disposing), disposing]
      rfl
    · rw [if_neg (mt iff.1 disposing)]
      have nothing : step.incident? side script.session.clock = none := by
        cases step with
        | change change => exact absurd rfl (other change)
        | dispose handle part | startDisposal handle part =>
          simp only [Step.incident?, ite_eq_right_iff, reduceCtorEq, imp_false] at disposing ⊢
          simpa using disposing
        | _ => rfl
      rw [nothing]
      rfl

/-- A step that announces nothing by a plan is to the state what it is by itself. -/
theorem sideState_step_of_silent (current : script.SideState (Change.Silent side.address) side state)
    (queues : step.Queues (Change.Silent side.address)) :
    (script.step step).1.SideState (Change.Silent side.address) side
      (state.after (step.incident? side script.session.clock).toList) := by
  obtain ⟨_, _, still⟩ := sideState_step current queues
  cases gone : state.watch.disposed with
  | false =>
    rwa [(state.same_of_upTo (upTo_announced current queues gone)).1] at still
  | true =>
    rwa [((current.ended gone).after _).1] at still ⊢

/-- A run announces at the address what its steps are by themselves. -/
theorem upTo_announcedIn (current : script.SideState (Change.Silent side.address) side state)
    (queues : ∀ step ∈ steps, step.Queues (Change.Silent side.address))
    (live : state.watch.disposed = false) :
    upTo .disposal (script.announcedIn side steps) =
      upTo .disposal (Step.schedule side script.session.clock steps) := by
  induction steps generalizing script state with
  | nil => rfl
  | cons step rest ih =>
    have queues_now := queues step (List.mem_cons_self ..)
    obtain ⟨_, _, still⟩ := sideState_step current queues_now
    refine upTo_append_congr (upTo_announced current queues_now live) fun undisposed => ?_
    rw [← clock_step current queues_now]
    exact ih still (fun other member => queues other (List.mem_cons_of_mem _ member))
      (state.live_after live undisposed)

/-! ## What can be told of a side -/

theorem SideState.reads {allowed : Change → Prop} (current : script.SideState allowed side state) :
    script.Reads side.handle (some side.part) (.snapshot state.watch.latest) := by
  obtain ⟨watcher, found, watch, _⟩ := current.seat
  rw [← watch]
  refine reads_of_watcher current.known ?_ found
  rcases side with ⟨handle, book, kind, address, listener, feed⟩
  cases kind <;> rfl

/-- What a report says of the feed of a side. -/
theorem SideState.status {allowed : Change → Prop} (current : script.SideState allowed side state) :
    side.feed.bind script.report.status? = state.feed.map fun feed =>
      feed.status script.session.liveness.allowedSilence script.session.clock := by
  obtain ⟨_, _, _, feed⟩ := current.seat
  rw [← feed]
  cases side.feed with
  | none => rfl
  | some feed => exact Liveness.status?_report script.session.clock feed

theorem SideState.observation {allowed : Change → Prop} (current : script.SideState allowed side state)
    (step : Step α) :
    step.observation? side (script.step step).2 =
      state.observation? side script.session.liveness.allowedSilence script.session.clock step := by
  cases step with
  | latest handle part =>
    simp only [WatcherState.observation?]
    by_cases own : handle = side.handle ∧ part = some side.part
    · obtain ⟨rfl, rfl⟩ := own
      rw [current.reads]
      simp [Step.observation?]
    · have unseen (answer : Except Fault (Answer α)) :
          (Step.latest handle part).observation? side answer = none := by
        rcases answer with fault | answer
        · rfl
        · cases answer with
          | value value => exact if_neg own
          | _ => rfl
      rw [if_neg own, unseen]
  | report => exact congrArg (some <| Observation.feed ·) current.status
  | _ => rfl

/-- What is told of a side in the answers to the steps. -/
def observations (script : Script α) (side : StartedSide) : List (Step α) → List (Observation α)
  | [] => []
  | step :: rest =>
    (step.observation? side (script.step step).2).toList ++ (script.step step).1.observations side rest

/-- What is told of a side follows from the steps by themselves. -/
theorem observations_eq (current : script.SideState (Change.Silent side.address) side state)
    (queues : ∀ step ∈ steps, step.Queues (Change.Silent side.address)) :
    script.observations side steps =
      state.observations side script.session.liveness.allowedSilence script.session.clock steps := by
  induction steps generalizing script state with
  | nil => rfl
  | cons step rest ih =>
    have queues_now := queues step (List.mem_cons_self ..)
    have still := sideState_step_of_silent current queues_now
    rw [observations, WatcherState.observations, current.observation step,
      ih still fun other member => queues other (List.mem_cons_of_mem _ member),
      allowedSilence_step current.reached, clock_step current queues_now]

/-! ## Decisions -/

/-- What the watcher of a side decided on the updates that it was notified of since the book began.
It goes through all that the trace holds for it, in this order, and ends up as it is. -/
def Decides (begun now : Script α) (side : StartedSide)
    (decisions : List (Occurrence PayloadError)) : Prop :=
  ∃ watcher after occurrences, begun.session.watchers[side.index]? = some watcher ∧
    Passage side.index begun.session now.session watcher after occurrences ∧
    occurrences.map (·.input) = (incidents side.index side.listener
      (now.events.drop begun.events.length)).map Incident.input ∧
    decisions = occurrences.filter Occurrence.decided

/-- There is one answer to what it decided. -/
theorem Decides.unique {now : Script α} {decisions more : List (Occurrence PayloadError)}
    (decides : script.Decides now side decisions) (decides_too : script.Decides now side more) :
    decisions = more := by
  obtain ⟨watcher, _, occurrences, found, passage, inputs, rfl⟩ := decides
  obtain ⟨_, _, _, found_too, passage_too, inputs_too, rfl⟩ := decides_too
  obtain rfl := Option.some.inj (found.symm.trans found_too)
  have same := passage.course.alike passage_too.course ⟨rfl, rfl, rfl⟩
    (inputs.trans inputs_too.symm)
  rw [same.2]

/-- What a watcher decides is what its state makes of its incidents. -/
theorem SideState.decides {allowed : Change → Prop} {now : Script α} {added : List Event}
    (current : script.SideState allowed side state)
    (undergoes : Undergoes side.index side.listener script.session now.session added) :
    script.Decides now side (state.decisions (incidents side.index side.listener added)) := by
  obtain ⟨watcher, found, _⟩ := current.feed
  obtain ⟨after, passage⟩ := undergoes.passage found current.held
  refine ⟨watcher, after, _, found, passage, ?_, rfl⟩
  have grown : now.events.drop script.events.length = added := by
    show now.session.events.drop script.session.events.length = added
    rw [undergoes.events, List.drop_left]
  rw [grown, WatcherState.map_input_occurrences]

/-! ## Both sides -/

/-- The book is the pair of its sides. -/
def IsPair (script : Script α) (handle : Nat) : Prop :=
  ∃ bids asks,
    script.Reads handle (some .bids) (.snapshot (.orders bids)) ∧
    script.Reads handle (some .asks) (.snapshot (.orders asks)) ∧
    script.Reads handle none (.book ⟨bids, asks⟩) ∧
    script.Reads handle (some .book) (.book ⟨bids, asks⟩)

/-- The side is now what its state makes of what is announced. -/
structure Follows (begun now : Script α) (side : StartedSide) (state : WatcherState α)
    (announced : List Incident) : Prop where
  reads : now.Reads side.handle (some side.part) (.snapshot (state.after announced).watch.latest)
  decides : begun.Decides now side (state.decisions announced)
  status : side.feed.bind now.report.status? = (state.after announced).feed.map fun feed =>
    feed.status now.session.liveness.allowedSilence now.session.clock

/-- A side of a book is on its own.

* Whatever is done, it is what its state makes of what is announced at its address, up to its disposal.
* If no plan announces anything at its address, what is told of it, the values that are read and the
  reports on its feed, and what is decided on its updates follow from the steps that concern it.
* Whatever the plans are, its value and the decisions follow from what is announced at its address
  up to its disposal, and so does its feed in a report, with the times of these announcements. -/
structure IndependentSide (begun : Script α) (side : StartedSide) : Prop where
  follows : ∃ state, begun.session.state? side.index = some state ∧ ∀ steps,
    begun.Follows (begun.run steps) side state (upTo .disposal (begun.announcedIn side steps))
  undisturbed : begun.session.connection.Expects (Change.Silent side.address) →
    ∀ steps others : List (Step α), (∀ step ∈ steps, step.Queues (Change.Silent side.address)) →
      (∀ step ∈ others, step.Queues (Change.Silent side.address)) →
        steps.filter (Step.concerns side) = others.filter (Step.concerns side) →
          begun.observations side steps = begun.observations side others ∧
            ∃ decisions, begun.Decides (begun.run steps) side decisions ∧
              begun.Decides (begun.run others) side decisions
  determined : ∀ steps others,
    upTo .disposal ((begun.announcedIn side steps).map Incident.input) =
      upTo .disposal ((begun.announcedIn side others).map Incident.input) →
        (∃ value, (begun.run steps).Reads side.handle (some side.part) value ∧
          (begun.run others).Reads side.handle (some side.part) value) ∧
        ∃ decisions, begun.Decides (begun.run steps) side decisions ∧
          begun.Decides (begun.run others) side decisions
  reported : ∀ steps others,
    upTo .disposal (begun.announcedIn side steps) = upTo .disposal (begun.announcedIn side others) →
      (begun.run steps).session.clock = (begun.run others).session.clock →
        side.feed.bind (begun.run steps).report.status? =
          side.feed.bind (begun.run others).report.status?

theorem allowedSilence_run (reached : script.Reached) (steps : List (Step α)) :
    (script.run steps).session.liveness.allowedSilence =
      script.session.liveness.allowedSilence := by
  induction steps generalizing script with
  | nil => rfl
  | cons step rest ih =>
    exact (ih (reached.run [step])).trans (allowedSilence_step reached step)

/-- Whatever is done, a side that was just started is what its state makes of what is announced. -/
theorem SideState.follows (current : script.SideState (fun _ => True) side state)
    (live : state.watch.disposed = false) (steps : List (Step α)) :
    script.Follows (script.run steps) side state (upTo .disposal (script.announcedIn side steps)) := by
  obtain ⟨⟨added, undergoes, heard⟩, current_after⟩ :=
    sideState_run current fun (step : Step α) (_ : step ∈ steps) => step.queues_any
  obtain ⟨same, decided⟩ := state.after_upTo (script.announcedIn side steps)
  rw [← same] at current_after
  refine ⟨current_after.reads, ?_, current_after.status⟩
  rw [decided, ← (state.same_of_upTo (heard live)).2]
  exact current.decides undergoes

/-- Such a side is on its own. -/
theorem independent_of_sideState {begun : Script α}
    (states : ∀ allowed, begun.session.connection.Expects allowed →
      begun.SideState allowed side state) (live : state.watch.disposed = false) :
    begun.IndependentSide side := by
  have current := states (fun _ => True) fun _ _ _ _ => trivial
  have follows := current.follows live
  refine ⟨⟨state, current.held, follows⟩, ?undisturbed, ?determined, ?reported⟩
  case undisturbed =>
    intro expects steps others queues queues_too same
    have silent := states _ expects
    have announced : upTo .disposal (begun.announcedIn side steps) =
        upTo .disposal (begun.announcedIn side others) := by
      rw [upTo_announcedIn silent queues live, ← Step.schedule_filter, same, Step.schedule_filter,
        upTo_announcedIn silent queues_too live]
    refine ⟨?_, _, (follows steps).decides, ?_⟩
    · rw [observations_eq silent queues, observations_eq silent queues_too,
        ← WatcherState.observations_filter, same, WatcherState.observations_filter]
    · rw [announced]
      exact (follows others).decides
  case determined =>
    intro steps others same
    rw [Incident.upTo_input, Incident.upTo_input] at same
    have itself : Watch.Alike state.watch state.watch := ⟨rfl, rfl, rfl⟩
    obtain ⟨alike, decided⟩ := WatcherState.alike itself rfl same
    refine ⟨⟨_, (follows steps).reads, ?_⟩, _, (follows steps).decides, ?_⟩
    · rw [alike.latest]
      exact (follows others).reads
    · rw [WatcherState.decisions, decided]
      exact (follows others).decides
  case reported =>
    intro steps others announced clock
    rw [(follows steps).status, (follows others).status, announced, clock,
      allowedSilence_run current.reached, allowedSilence_run current.reached]

/-- At any moment after the start of a book its value is the pair of the values of its sides. -/
theorem isPair_of_later (reached : script.Reached) {request : BookRequest} {handle : Nat}
    {name : String} (success : (script.step (.watchBook request)).2 = .ok (.handle handle name))
    {later : Script α} (after : (script.step (.watchBook request)).1.Later later) :
    later.IsPair handle := by
  obtain ⟨watchers, source, books, sourced⟩ := books_of_later reached success after
  have shows := showsView_of_books books sourced source
  exact ⟨_, _, shows.bids.reads, shows.asks.reads, shows.whole, shows.book⟩

/-- What touches one side of a book does not concern the other one, if their addresses differ. -/
theorem concerns_of_touches {other : StartedSide} (apart : side.address ≠ other.address)
    (parts : side.part ≠ other.part) (touches : step.Touches other) :
    step.concerns side = false := by
  cases step with
  | change made =>
    cases made with
    | announce there version | publish there version =>
      by_cases here : there = side.address
      · subst here
        exact absurd (if_neg apart) touches
      · simp [Step.concerns, Change.isAdvance, Change.announced?, here]
    | store | remove => rfl
    | advance elapsed => exact absurd rfl touches
  | plan kind queued => rfl
  | dispose handle part | startDisposal handle part =>
    obtain ⟨rfl, rfl⟩ := touches
    simp [Step.concerns, Step.incident?, Ne.symm parts]
  | finishDisposal handle part => rfl
  | _ => exact touches.elim

theorem side?_eq_some {request : BookRequest} {handle : Nat} {kind : SideKind}
    (known : script.side? request handle kind = some side) :
    side.address = request.address kind ∧ side.kind = kind := by
  unfold side? at known
  split at known
  · obtain ⟨watcher, _, given⟩ := Option.bind_eq_some_iff.1 known
    obtain ⟨listener, _, rfl⟩ := Option.map_eq_some_iff.1 given
    exact ⟨rfl, rfl⟩
  · cases known

/-- Once a book with two addresses is started each of its sides is on its own, and what touches one
of them, an announcement at its address, its disposal or any plan, does not concern the other.  At
every moment the value of the book is the pair of the values of its sides. -/
theorem sides_independent {script : Script α} (reached : script.Reached) {request : BookRequest}
    (apart : request.bids ≠ request.asks) {handle : Nat} {name : String}
    (success : (script.step (.watchBook request)).2 = .ok (.handle handle name)) :
    (∃ bids asks, (script.step (.watchBook request)).1.side? request handle .bids = some bids ∧
      (script.step (.watchBook request)).1.side? request handle .asks = some asks ∧
      (script.step (.watchBook request)).1.IndependentSide bids ∧
      (script.step (.watchBook request)).1.IndependentSide asks ∧
      (∀ step : Step α, step.Touches bids → step.concerns asks = false) ∧
      ∀ step : Step α, step.Touches asks → step.concerns bids = false) ∧
    ∀ later, (script.step (.watchBook request)).1.Later later → later.IsPair handle := by
  have independent (kind : SideKind) : ∃ side,
      (script.step (.watchBook request)).1.side? request handle kind = some side ∧
        (script.step (.watchBook request)).1.IndependentSide side := by
    obtain ⟨side, state, known, states, live⟩ := sideState_of_started reached success kind
    exact ⟨side, known, independent_of_sideState states live⟩
  obtain ⟨bids, bids_known, bids_independent⟩ := independent .bids
  obtain ⟨asks, asks_known, asks_independent⟩ := independent .asks
  obtain ⟨bids_address, bids_kind⟩ := side?_eq_some bids_known
  obtain ⟨asks_address, asks_kind⟩ := side?_eq_some asks_known
  have addresses : bids.address ≠ asks.address := by
    rw [bids_address, asks_address]
    exact apart
  have parts : bids.part ≠ asks.part := by
    rw [StartedSide.part, StartedSide.part, bids_kind, asks_kind]
    nofun
  refine ⟨⟨bids, asks, bids_known, asks_known, bids_independent, asks_independent,
    fun step touches => ?_, fun step touches => ?_⟩, fun later after => isPair_of_later reached success after⟩
  · exact concerns_of_touches addresses.symm parts.symm touches
  · exact concerns_of_touches addresses parts touches

/-- The asks change, and then their value and their feed are looked at. -/
def calmSteps : List (Step α) :=
  [.change (.publish (.fill 2) (oneOrder 6 2)), .latest 0 (some .asks), .report]

/-- Meanwhile the bids get an empty account and are disposed, which fails. -/
def stormySteps : List (Step α) :=
  [.change (.publish (.fill 1) ⟨#[], some 3⟩), .plan .unsubscribe { failure := some "stuck" },
    .change (.publish (.fill 2) (oneOrder 6 2)), .dispose 0 (some .bids),
    .change (.announce (.fill 1) (oneOrder 5 4)), .latest 0 (some .asks), .report]

/-- Whatever happens to the bids, the asks look the same, and the disposed bids stay in the book. -/
theorem sides_independent_oneOrderEach :
    oneOrderEach.Reached ∧ oneOrderRequest.bids ≠ oneOrderRequest.asks ∧
      let begun := (oneOrderEach.step (.watchBook oneOrderRequest)).1
      begun.observations ⟨0, ⟨0, 1⟩, .asks, .fill 2, 2, some 2⟩ calmSteps =
          begun.observations ⟨0, ⟨0, 1⟩, .asks, .fill 2, 2, some 2⟩ stormySteps ∧
        (begun.run stormySteps).IsPair 0 := by
  have reached : oneOrderEach.Reached := ⟨0, 1000, .confirmed, [], _, rfl⟩
  have apart : oneOrderRequest.bids ≠ oneOrderRequest.asks := by decide +kernel
  have success : (oneOrderEach.step (.watchBook oneOrderRequest)).2 =
      .ok (.handle 0 "orderbook") := opened?_eq_some_iff.1 (by decide +kernel)
  obtain ⟨⟨bids, asks, _, known, _, independent, _⟩, pair⟩ :=
    sides_independent reached apart success
  have side : (oneOrderEach.step (.watchBook oneOrderRequest)).1.side? oneOrderRequest 0 .asks =
      some ⟨0, ⟨0, 1⟩, .asks, .fill 2, 2, some 2⟩ := by decide +kernel
  cases known.symm.trans side
  have plans : (oneOrderEach.step (.watchBook oneOrderRequest)).1.session.connection.plans = [] := by
    decide +kernel
  have expects : (oneOrderEach.step
      (.watchBook oneOrderRequest)).1.session.connection.Expects (Change.Silent (.fill 2)) := by
    rw [Connection.Expects, plans]
    exact List.forall_mem_nil _
  refine ⟨reached, apart, ?_, pair _ (.of_run _ _)⟩
  refine (independent.undisturbed expects calmSteps stormySteps ?_ ?_ (by rfl)).1
  · simp [calmSteps, Step.Queues]
  · simp [stormySteps, Step.Queues, Plan.changes]

end Script
end SlabBook

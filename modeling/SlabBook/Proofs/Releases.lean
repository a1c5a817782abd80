import Mathlib.Data.List.Induction
import SlabBook.Proofs.Holdings

/-!
# Nothing leaks and nothing is released twice

After every step of a script the watchers' feeds in the registry are those of the watchers that were
started and never disposed.  A watcher that is neither has asked for the removal of its listener
once, and one that is both started and never disposed has not.

* `Script.keeps_step`, `Script.keeps_run` — what a step and a whole run preserve;
* `Script.nothing_leaks` — what this comes to for the registry and the trace.
-/

namespace SlabBook

variable {α : Type}

namespace Source

/-- The watchers that a source owns; a derived value owns none. -/
def watchers : Source → List Nat
  | .watcher index => [index]
  | .book pair => [pair.bids, pair.asks]
  | .all _ => []

def book? : Source → Option BookWatchers
  | .book pair => some pair
  | _ => none

theorem eq_book {source : Source} {pair : BookWatchers} (same : source.book? = some pair) :
    source = .book pair := by
  cases source with
  | book book => exact congrArg Source.book (Option.some.inj same)
  | watcher index => cases same
  | all sources => cases same

end Source

namespace Script

def sources (script : Script α) : List Source := script.handles.toList.map (·.source)

/-- The watchers that a step starts, if it succeeds. -/
def starts (script : Script α) : Step α → List Nat
  | .watch request =>
    match (script.session.watchAccount request).2 with
    | .ok index => [index]
    | .error _ => []
  | .watchBook request =>
    match (script.session.watchBook request).2 with
    | .ok book => [book.bids, book.asks]
    | .error _ => []
  | _ => []

/-- The watchers that are disposed with a part of what a handle names. -/
def disposals (script : Script α) (handle : Nat) (part : Option Part) : List Nat :=
  match script.source? handle with
  | none => []
  | some source => targets source part

/-- The watchers that a step disposes, whether it waits for the end of that or not. -/
def disposes (script : Script α) : Step α → List Nat
  | .dispose handle part => script.disposals handle part
  | .startDisposal handle part => script.disposals handle part
  | _ => []

/-- Something happens in a step of the run. -/
def Sometime (script : Script α) (steps : List (Step α)) (happens : Script α → Step α → Prop) : Prop :=
  ∃ earlier step later, steps = earlier ++ step :: later ∧ happens (script.run earlier) step

def Started (script : Script α) (steps : List (Step α)) (index : Nat) : Prop :=
  script.Sometime steps fun before step => index ∈ before.starts step

def Disposed (script : Script α) (steps : List (Step α)) (index : Nat) : Prop :=
  script.Sometime steps fun before step => index ∈ before.disposes step

theorem sometime_nil (script : Script α) (happens : Script α → Step α → Prop) :
    ¬ script.Sometime [] happens := by
  rintro ⟨earlier, step, later, none, _⟩
  simp at none

theorem sometime_concat (script : Script α) (steps : List (Step α)) (step : Step α)
    (happens : Script α → Step α → Prop) :
    script.Sometime (steps ++ [step]) happens ↔
      script.Sometime steps happens ∨ happens (script.run steps) step := by
  constructor
  · rintro ⟨earlier, one, later, cut, happened⟩
    rcases Watch.cut_concat cut with ⟨rfl, rfl⟩ | ⟨rest, rfl⟩
    · exact .inr happened
    · exact .inl ⟨earlier, one, rest, rfl, happened⟩
  · rintro (⟨earlier, one, later, rfl, happened⟩ | happened)
    · exact ⟨earlier, one, later ++ [step], by simp, happened⟩
    · exact ⟨steps, step, [], rfl, happened⟩

theorem run_concat (script : Script α) (steps : List (Step α)) (step : Step α) :
    script.run (steps ++ [step]) = ((script.run steps).step step).1 := by
  simp [run]

end Script

/-! ## What a run preserves -/

/-- The custody is sound, and its live watchers are those started and not disposed.  A started one has
a listener and is disposed for the first time when it retires.  Sources own started watchers only,
and plain subscriptions have listeners that aim at no watcher. -/
structure Kept (own : List Nat) (subscriptions : List Nat) (sources : List Source)
    (started disposed : Nat → Prop) (c : Custody) : Prop where
  sound : c.Sound own
  live : ∀ index, c.Live index ↔ started index ∧ ¬ disposed index
  seated : ∀ index, started index → ∃ held, c.tenure index = some held ∧
    held.listener.isSome ∧ held.disposing = held.retired
  disposed : ∀ index, disposed index → started index
  owned : ∀ source ∈ sources, ∀ index ∈ source.watchers, started index
  elsewhere : ∀ id ∈ subscriptions, ∃ listener ∈ c.attached, listener.id = id ∧
    ∀ index, listener.sink ≠ .watcher index

namespace Kept

variable {own subscriptions : List Nat} {sources : List Source} {started disposed : Nat → Prop}
  {c next : Custody}

theorem register (kept : Kept own subscriptions sources started disposed c) (name : String) :
    Kept (own ++ [c.nextFeed]) subscriptions sources started disposed (c.register name) where
  sound := ⟨kept.sound.feeds.register name, kept.sound.listeners, kept.sound.absent⟩
  live := kept.live
  seated := kept.seated
  disposed := kept.disposed
  owned := kept.owned
  elsewhere := kept.elsewhere

theorem drop (kept : Kept own subscriptions sources started disposed c) {id : Nat}
    (mine : id ∈ own) : Kept own subscriptions sources started disposed (c.drop (some id)) where
  sound := ⟨kept.sound.feeds.drop mine, kept.sound.listeners, kept.sound.absent⟩
  live := kept.live
  seated := kept.seated
  disposed := kept.disposed
  owned := kept.owned
  elsewhere := kept.elsewhere

theorem listen (kept : Kept own subscriptions sources started disposed c) (address : Address)
    {sink : Sink} (elsewhere : ∀ index, sink ≠ .watcher index) :
    Kept own (subscriptions ++ [c.nextListener]) sources started disposed
      (c.attach address sink) where
  sound := ⟨kept.sound.feeds, kept.sound.listeners.listen address elsewhere, kept.sound.absent⟩
  live := kept.live
  seated := kept.seated
  disposed := kept.disposed
  owned := kept.owned
  elsewhere := by
    intro id member
    rcases List.mem_append.1 member with old | fresh
    · obtain ⟨listener, attached, rest⟩ := kept.elsewhere id old
      exact ⟨listener, List.mem_append_left _ attached, rest⟩
    · obtain rfl := List.mem_singleton.1 fresh
      exact ⟨_, List.mem_append_right _ (List.mem_singleton_self _), rfl, elsewhere⟩

theorem unlisten (kept : Kept own subscriptions sources started disposed c) {id : Nat}
    (member : id ∈ subscriptions) :
    Kept own subscriptions sources started disposed (c.release id) where
  sound := by
    obtain ⟨listener, attached, rfl, elsewhere⟩ := kept.elsewhere id member
    exact ⟨kept.sound.feeds, kept.sound.listeners.unlisten attached elsewhere, kept.sound.absent⟩
  live := kept.live
  seated := kept.seated
  disposed := kept.disposed
  owned := kept.owned
  elsewhere := kept.elsewhere

/-- A start that failed. -/
theorem restored (kept : Kept own subscriptions sources started disposed c)
    (sound : next.Sound own) (restored : c.Restored next) :
    Kept own subscriptions sources started disposed next where
  sound := sound
  live := by
    intro index
    rw [← kept.live]
    refine ⟨restored.live index, ?_⟩
    rintro ⟨held, found, live⟩
    exact ⟨held, restored.tenure index held found, live⟩
  seated := by
    intro index begun
    obtain ⟨held, found, rest⟩ := kept.seated index begun
    exact ⟨held, restored.tenure index held found, rest⟩
  disposed := kept.disposed
  owned := kept.owned
  elsewhere := by
    intro id member
    obtain ⟨listener, attached, rest⟩ := kept.elsewhere id member
    exact ⟨listener, restored.attached attached, rest⟩

theorem not_started_size (kept : Kept own subscriptions sources started disposed c) :
    ¬ started c.size := by
  intro begun
  obtain ⟨held, found, _⟩ := kept.seated c.size begun
  exact Nat.lt_irrefl _ (kept.sound.lt_size found)

/-- A start that succeeded. -/
theorem welcome (kept : Kept own subscriptions sources started disposed c)
    (request : WatchRequest α) :
    Kept own subscriptions sources (fun index => started index ∨ index = c.size) disposed
      (c.welcome request) where
  sound := kept.sound.welcome request
  live := by
    intro index
    rw [Custody.live_welcome_iff, kept.live]
    constructor
    · rintro (⟨begun, undisposed⟩ | rfl)
      · exact ⟨.inl begun, undisposed⟩
      · exact ⟨.inr rfl, fun gone => kept.not_started_size (kept.disposed _ gone)⟩
    · rintro ⟨begun | fresh, undisposed⟩
      · exact .inl ⟨begun, undisposed⟩
      · exact .inr fresh
  seated := by
    rintro index (begun | rfl)
    · obtain ⟨held, found, rest⟩ := kept.seated index begun
      have different : index ≠ c.size := fun same => kept.not_started_size (same ▸ begun)
      exact ⟨held, by rw [Custody.welcome_tenure, Function.update_of_ne different, found], rest⟩
    · exact ⟨_, Custody.welcome_resident, rfl, rfl⟩
  disposed index gone := .inl (kept.disposed index gone)
  owned source member index has := .inl (kept.owned source member index has)
  elsewhere := by
    intro id member
    obtain ⟨listener, attached, rest⟩ := kept.elsewhere id member
    refine ⟨listener, ?_, rest⟩
    rw [Custody.welcome_attached]
    exact List.mem_append_left _ attached

/-- A disposal, the first one or a later one. -/
theorem dispose (kept : Kept own subscriptions sources started disposed c) {gone : Nat}
    (begun : started gone) :
    Kept own subscriptions sources started (fun index => disposed index ∨ index = gone)
      (c.dispose gone) := by
  obtain ⟨held, found, holding, once⟩ := kept.seated gone begun
  refine ⟨kept.sound.dispose found once, ?_, ?_, ?_, kept.owned, ?_⟩
  · intro index
    rw [Custody.live_dispose_iff found once, kept.live, not_or, and_assoc]
  · intro index begun_too
    obtain ⟨other, there, rest⟩ := kept.seated index begun_too
    rw [Custody.dispose_tenure found once]
    by_cases same : index = gone
    · subst same
      exact ⟨_, Function.update_self .., holding, rfl⟩
    · exact ⟨other, by rw [Function.update_of_ne same, there], rest⟩
  · rintro index (old | rfl)
    · exact kept.disposed index old
    · exact begun
  · rw [Custody.dispose_attached]
    exact kept.elsewhere

theorem congr {begun gone : Nat → Prop}
    (kept : Kept own subscriptions sources started disposed c)
    (started_iff : ∀ index, begun index ↔ started index)
    (disposed_iff : ∀ index, gone index ↔ disposed index) :
    Kept own subscriptions sources begun gone c := by
  obtain rfl : begun = started := funext fun index => propext (started_iff index)
  obtain rfl : gone = disposed := funext fun index => propext (disposed_iff index)
  exact kept

theorem disposeAll (kept : Kept own subscriptions sources started disposed c) {indices : List Nat}
    (begun : ∀ gone ∈ indices, started gone) :
    Kept own subscriptions sources started (fun index => disposed index ∨ index ∈ indices)
      (indices.foldl Custody.dispose c) := by
  induction indices generalizing c disposed with
  | nil => simpa using kept
  | cons gone rest ih =>
    have first := kept.dispose (begun gone (List.mem_cons_self ..))
    exact congr (ih first fun other member => begun other (List.mem_cons_of_mem _ member))
      (fun _ => .rfl) (by simp [or_assoc])

/-- A new source that owns started watchers. -/
theorem own_source (kept : Kept own subscriptions sources started disposed c) {source : Source}
    (owned : ∀ index ∈ source.watchers, started index) :
    Kept own subscriptions (sources ++ [source]) started disposed c :=
  { kept with
    owned := by
      intro other member
      rcases List.mem_append.1 member with old | fresh
      · exact kept.owned other old
      · obtain rfl := List.mem_singleton.1 fresh
        exact owned }

end Kept

namespace Script

open Session

variable {script next : Script α} {step : Step α} {started disposed : Nat → Prop}

/-- The script's own feeds, its subscriptions and its sources, with its session's custody. -/
def Keeps (script : Script α) (started disposed : Nat → Prop) : Prop :=
  Kept script.feeds.toList script.subscriptions.toList script.sources started disposed
    script.session.custody

theorem sources_getElem? (script : Script α) (index : Nat) :
    script.sources[index]? = script.source? index := by
  simp [sources, source?]

theorem mem_sources {index : Nat} {source : Source} (known : script.source? index = some source) :
    source ∈ script.sources :=
  List.mem_of_getElem? ((sources_getElem? script index).trans known)

theorem sources_addHandle (source : Source) :
    (script.addHandle source).sources = script.sources ++ [source] := by
  simp [sources, addHandle]

theorem sources_markDisposed (index : Nat) :
    (script.markDisposed index).sources = script.sources := by
  refine List.ext_getElem? fun queried => ?_
  rw [sources_getElem?, sources_getElem?, source?_markDisposed]

theorem keeps_start (clock allowedSilence : Int) (commitment : Commitment)
    (origins : List String) :
    (start (.start clock allowedSilence commitment : Session α) origins).Keeps (fun _ => False)
      (fun _ => False) where
  sound := ⟨.empty 1, .empty 1, fun _ _ => rfl⟩
  live index := ⟨fun ⟨_, found, _⟩ => (by cases found), fun ⟨begun, _⟩ => begun.elim⟩
  seated := nofun
  disposed := nofun
  owned := nofun
  elsewhere := nofun

/-! ## One step -/

/-- What holds after a step, given what the step started and disposed. -/
def StepKeeps (script : Script α) (step : Step α) (started disposed : Nat → Prop) : Prop :=
  (script.step step).1.Keeps (fun index => started index ∨ index ∈ script.starts step)
    (fun index => disposed index ∨ index ∈ script.disposes step)

/-- Nothing starts and nothing is disposed. -/
theorem stepKeeps_of_same (kept : (script.step step).1.Keeps started disposed)
    (starts : script.starts step = []) (disposes : script.disposes step = []) :
    script.StepKeeps step started disposed :=
  kept.congr (by simp [starts]) (by simp [disposes])

/-- Only the session changes, and its custody stays. -/
theorem keeps_of_custody (kept : script.Keeps started disposed) {session : Session α}
    (custody : session.custody = script.session.custody) :
    (script.withSession session).Keeps started disposed := by
  unfold Keeps
  show Kept script.feeds.toList script.subscriptions.toList script.sources started disposed
    session.custody
  rw [custody]
  exact kept

theorem mem_watchers_of_targets {source : Source} {part : Option Part} {index : Nat}
    (target : index ∈ targets source part) : index ∈ source.watchers := by
  unfold targets at target
  split at target <;> simp_all [Source.watchers]

theorem keeps_markDisposed (kept : script.Keeps started disposed) (index : Nat) :
    (script.markDisposed index).Keeps started disposed := by
  unfold Keeps
  rw [sources_markDisposed]
  exact kept

theorem keeps_withDisposed (kept : script.Keeps started disposed) (index : Nat)
    (part : Option Part) : (script.withDisposed index part).Keeps started disposed := by
  unfold withDisposed
  split <;> first | exact kept | exact keeps_markDisposed kept index

/-- The disposals of the watchers that a source owns have begun. -/
theorem keeps_disposals (kept : script.Keeps started disposed) {handle : Nat} {part : Option Part}
    {source : Source} (known : script.source? handle = some source) {session : Session α}
    (gone : session.custody = (targets source part).foldl Custody.dispose script.session.custody) :
    ((script.withDisposed handle part).withSession session).Keeps started
      (fun index => disposed index ∨ index ∈ targets source part) := by
  have owned := kept.owned source (mem_sources known)
  have marked : (script.withDisposed handle part).Keeps started disposed :=
    keeps_withDisposed kept handle part
  have all := Kept.disposeAll marked fun index (target : index ∈ targets source part) =>
    owned index (mem_watchers_of_targets target)
  rw [session_withDisposed, ← gone] at all
  exact all

theorem keeps_dispose (kept : script.Keeps started disposed) (handle : Nat)
    (part : Option Part) :
    (script.dispose handle part).1.Keeps started
      (fun index => disposed index ∨ index ∈ script.disposes (.dispose handle part)) := by
  simp only [dispose, disposes, disposals]
  cases known : script.source? handle with
  | none => exact Kept.congr kept (fun _ => .rfl) (by simp)
  | some source => exact keeps_disposals kept known (custody_dispose _)

theorem keeps_startDisposal (kept : script.Keeps started disposed) (handle : Nat)
    (part : Option Part) :
    (script.startDisposal handle part).Keeps started
      (fun index => disposed index ∨ index ∈ script.disposes (.startDisposal handle part)) := by
  simp only [startDisposal, disposes, disposals]
  cases known : script.source? handle with
  | none => exact Kept.congr kept (fun _ => .rfl) (by simp)
  | some source => exact keeps_disposals kept known (custody_startDisposals _)

theorem keeps_finishDisposal (kept : script.Keeps started disposed) (handle : Nat)
    (part : Option Part) : (script.finishDisposal handle part).Keeps started disposed := by
  unfold finishDisposal
  split
  · exact kept
  · exact keeps_of_custody kept (custody_finishDisposals _)

theorem keeps_register (kept : script.Keeps started disposed) (name : String) :
    (script.step (.register name)).1.Keeps started disposed := by
  have registered := Kept.register kept name
  rw [← custody_register name script.session.clock] at registered
  simp only [Keeps, step, Array.toList_push]
  exact registered

theorem keeps_dropFeed (kept : script.Keeps started disposed) (feed : Nat) :
    (script.withSession (script.session.dropFeed script.feeds[feed]?)).Keeps started disposed := by
  unfold Keeps
  show Kept script.feeds.toList script.subscriptions.toList script.sources started disposed
    (script.session.dropFeed script.feeds[feed]?).custody
  rw [custody_dropFeed]
  cases mine : script.feeds[feed]? with
  | none => exact kept
  | some id => exact Kept.drop kept (Array.mem_toList_iff.2 (Array.mem_of_getElem? mine))

theorem keeps_subscribe (kept : script.Keeps started disposed) (address : Address) :
    (script.subscribe address).1.Keeps started disposed := by
  unfold subscribe
  dsimp only
  rcases asked : script.session.subscribe address (.subscription script.subscriptions.size) with
    ⟨session, outcome⟩
  rcases custody_subscribe asked with ⟨fault, rfl, same⟩ | ⟨rfl, taken⟩
  · exact keeps_of_custody kept same
  · have elsewhere (index : Nat) : Sink.subscription script.subscriptions.size ≠ .watcher index :=
      nofun
    have listening := Kept.listen kept address elsewhere
    rw [← taken] at listening
    simp only [Keeps, Array.toList_push]
    exact listening

theorem keeps_unsubscribe (kept : script.Keeps started disposed) (subscription : Nat) :
    (script.step (.unsubscribe subscription)).1.Keeps started disposed := by
  simp only [step]
  cases mine : script.subscriptions[subscription]? with
  | none => exact kept
  | some id =>
    have released := Kept.unlisten kept (Array.mem_toList_iff.2 (Array.mem_of_getElem? mine))
    rw [← custody_unsubscribe] at released
    exact released

theorem keeps_load (kept : script.Keeps started disposed) (address : Address) (market : Market)
    (capacity : Capacity) : (script.load address market capacity).1.Keeps started disposed := by
  have same := custody_callPhases
    (callPhases_loadSide script.session.connection.expects_any address market capacity)
  unfold load
  rcases loaded : script.session.loadSide address market capacity with ⟨session, outcome⟩
  rw [loaded] at same
  cases outcome <;> exact keeps_of_custody kept same

/-- A new handle on started watchers. -/
theorem keeps_addHandle (kept : script.Keeps started disposed) {source : Source}
    (owned : ∀ index ∈ source.watchers, started index) :
    (script.addHandle source).Keeps started disposed := by
  unfold Keeps
  rw [sources_addHandle]
  exact Kept.own_source kept owned

theorem stepKeeps_watch (kept : script.Keeps started disposed) (request : WatchRequest α) :
    script.StepKeeps (.watch request) started disposed := by
  simp only [StepKeeps, step, watch, starts, disposes]
  rcases answered : script.session.watchAccount request with ⟨session, outcome⟩
  have begun := custody_watchAccount answered
  cases outcome with
  | error fault =>
    obtain ⟨sound, back⟩ := begun.restored kept.sound
    exact (Kept.restored kept sound back).congr (by simp) (by simp)
  | ok index =>
    obtain ⟨rfl, welcomed⟩ := begun.of_ok
    have entered := Kept.welcome kept request
    rw [← welcomed] at entered
    have seated : (script.withSession session).Keeps
        (fun index => started index ∨ index = script.session.custody.size) disposed := entered
    have owned : ∀ index ∈ (Source.watcher script.session.custody.size).watchers,
        started index ∨ index = script.session.custody.size := by
      simp [Source.watchers]
    exact (keeps_addHandle seated owned).congr (by simp) (by simp)

theorem stepKeeps_watchBook (kept : script.Keeps started disposed) (request : BookRequest) :
    script.StepKeeps (.watchBook request) started disposed := by
  simp only [StepKeeps, step, watchBook, starts, disposes]
  rcases answered : script.session.watchBook request with ⟨session, outcome⟩
  rcases custody_watchBook kept.sound answered with
    ⟨fault, rfl, sound, back⟩ | ⟨between, welcomed_first, rfl, welcomed⟩
  · exact (Kept.restored kept sound back).congr (by simp) (by simp)
  · let side (kind : SideKind) (address : Address) : WatchRequest α :=
      .side kind address request.market request.capacity request.options
    have entered := (Kept.welcome kept (side .bids request.bids)).welcome (side .asks request.asks)
    rw [← welcomed_first, ← welcomed] at entered
    have seated : (script.withSession session).Keeps (fun index =>
        (started index ∨ index = script.session.custody.size) ∨ index = between.size) disposed :=
      entered
    refine (keeps_addHandle seated ?_).congr ?_ ?_
    · simp [Source.watchers]
    · simp [or_assoc]
    · simp

/-- What one step preserves. -/
theorem keeps_step (kept : script.Keeps started disposed) (step : Step α) :
    script.StepKeeps step started disposed := by
  cases step with
  | change change =>
    exact stepKeeps_of_same (keeps_of_custody kept (custody_change change)) rfl rfl
  | plan kind plan => exact stepKeeps_of_same (keeps_of_custody kept rfl) rfl rfl
  | register name => exact stepKeeps_of_same (keeps_register kept name) rfl rfl
  | ping feed => exact stepKeeps_of_same (keeps_of_custody kept (custody_pingFeed _)) rfl rfl
  | dropFeed feed => exact stepKeeps_of_same (keeps_dropFeed kept feed) rfl rfl
  | fetch address => exact stepKeeps_of_same (keeps_of_custody kept (custody_fetch _)) rfl rfl
  | subscribe address => exact stepKeeps_of_same (keeps_subscribe kept address) rfl rfl
  | unsubscribe subscription =>
    exact stepKeeps_of_same (keeps_unsubscribe kept subscription) rfl rfl
  | load address market capacity =>
    exact stepKeeps_of_same (keeps_load kept address market capacity) rfl rfl
  | watch request => exact stepKeeps_watch kept request
  | watchBook request => exact stepKeeps_watchBook kept request
  | derive name handles =>
    exact stepKeeps_of_same (keeps_addHandle kept (by simp [Source.watchers])) rfl rfl
  | latest handle part =>
    -- the value is looked up, whether there is one or not, in a script that stays
    refine stepKeeps_of_same ?_ rfl rfl
    simp only [Script.step]
    split <;> exact kept
  | dispose handle part =>
    exact (keeps_dispose kept handle part).congr (by simp [starts]) (fun _ => .rfl)
  | startDisposal handle part =>
    exact (keeps_startDisposal kept handle part).congr (by simp [starts]) (fun _ => .rfl)
  | finishDisposal handle part =>
    exact stepKeeps_of_same (keeps_finishDisposal kept handle part) rfl rfl
  | report | size | frozen | isDisposed | request => exact stepKeeps_of_same kept rfl rfl

/-! ## A whole run -/

/-- What a whole run preserves. -/
theorem keeps_run (kept : script.Keeps (fun _ => False) (fun _ => False)) (steps : List (Step α)) :
    (script.run steps).Keeps (script.Started steps) (script.Disposed steps) := by
  -- from the end, since what has happened sometime grows by what the last step does
  induction steps using List.reverseRecOn with
  | nil =>
    exact Kept.congr kept (fun _ => iff_false_intro (sometime_nil _ _))
      (fun _ => iff_false_intro (sometime_nil _ _))
  | append_singleton steps step ih =>
    rw [run_concat]
    exact (keeps_step ih step).congr (fun _ => sometime_concat ..) (fun _ => sometime_concat ..)

/-! ## The registry and the trace -/

/-- The listeners that were ever attached. -/
def listeners (script : Script α) : List Listener :=
  script.events.filterMap Event.attached?

/-- How often the removal of a listener was asked for. -/
def removals (script : Script α) (listener : Listener) : Nat :=
  (script.events.filterMap Event.released?).count listener.id

/-- What is taken and not given back is what the live watchers have.  Feeds that the script registered
itself do not count. -/
structure Tidy (script : Script α) (live : Nat → Prop) : Prop where
  feed_ids : (script.session.liveness.feeds.map (·.id)).Nodup
  feeds : ∀ id name, id ∉ script.feeds.toList →
    ((id, name) ∈ script.session.liveness.entries ↔ ∃ index, ∃ watcher : Watcher α,
      live index ∧ script.session.watchers[index]? = some watcher ∧ watcher.feed = some id ∧
        watcher.request.name = name)
  given : ∀ (index : Nat) (watcher : Watcher α), script.session.watchers[index]? = some watcher →
    watcher.feed.isSome = watcher.request.options.liveness
  foreign : ∀ (index : Nat) (watcher : Watcher α) id, script.session.watchers[index]? = some watcher →
    watcher.feed = some id → id ∉ script.feeds.toList
  distinct : ∀ (first second : Nat) (watcher other : Watcher α) id,
    script.session.watchers[first]? = some watcher →
    script.session.watchers[second]? = some other → watcher.feed = some id →
    other.feed = some id → first = second
  listener_ids : (script.listeners.map (·.id)).Nodup
  seated : ∀ index, live index → ∃ (watcher : Watcher α) (listener : Listener),
    script.session.watchers[index]? = some watcher ∧ watcher.listener = some listener.id ∧
      listener ∈ script.listeners ∧ listener.sink = .watcher index
  heard : ∀ listener ∈ script.listeners, ∀ index, listener.sink = .watcher index → live index →
    script.removals listener = 0
  released : ∀ listener ∈ script.listeners, ∀ index, listener.sink = .watcher index →
    ¬ live index → script.removals listener = 1

theorem tenure_eq_some_iff {s : Session α} {index : Nat} {held : Tenure} :
    s.custody.tenure index = some held ↔
      ∃ watcher, s.watchers[index]? = some watcher ∧ watcher.tenure = held :=
  Option.map_eq_some_iff

/-- A watcher that was started has a listener, also after its disposal. -/
theorem Keeps.seat (kept : script.Keeps started disposed) {index : Nat} (begun : started index) :
    ∃ watcher listener, script.session.watchers[index]? = some watcher ∧
      watcher.listener = some listener.id ∧ listener ∈ script.listeners ∧
      listener.sink = .watcher index := by
  obtain ⟨held, found, holding, _⟩ := kept.seated index begun
  obtain ⟨id, holds⟩ := Option.isSome_iff_exists.1 holding
  obtain ⟨listener, attached, rfl, sink⟩ := kept.sound.listeners.holds index held id found holds
  obtain ⟨watcher, there, rfl⟩ := tenure_eq_some_iff.1 found
  exact ⟨watcher, listener, there, holds, attached, sink⟩

theorem Keeps.tidy (kept : script.Keeps started disposed) :
    script.Tidy fun index => started index ∧ ¬ disposed index where
  feed_ids := by
    have ids := kept.sound.feeds.ids
    rwa [show script.session.custody.feeds = script.session.liveness.entries from rfl,
      Liveness.entries, List.map_map] at ids
  feeds := by
    intro id name others
    constructor
    · intro member
      rcases kept.sound.feeds.taken (id, name) member with own | ⟨index, held, found, stays, rest⟩
      · exact absurd own others
      · have live := (kept.live index).1 ⟨held, found, stays⟩
        obtain ⟨watcher, there, rfl⟩ := tenure_eq_some_iff.1 found
        exact ⟨index, watcher, live, there, rest⟩
    · rintro ⟨index, watcher, live, there, feed, rfl⟩
      obtain ⟨held, found, stays⟩ := (kept.live index).2 live
      cases (custody_tenure there).symm.trans found
      exact (kept.sound.feeds.leases index _ found).kept id feed stays
  given index watcher there := (kept.sound.feeds.leases index _ (custody_tenure there)).registers
  foreign index watcher id there :=
    (kept.sound.feeds.leases index _ (custody_tenure there)).apart id
  distinct first second watcher other id there there_too :=
    kept.sound.feeds.distinct first second _ _ id (custody_tenure there) (custody_tenure there_too)
  listener_ids := kept.sound.listeners.ids
  seated index live := kept.seat live.1
  heard := by
    intro listener attached index sink live
    obtain ⟨held, found, stays⟩ := (kept.live index).2 live
    obtain ⟨_, again, holds⟩ := kept.sound.listeners.aimed listener attached index sink
    cases found.symm.trans again
    have count := kept.sound.listeners.count index held listener.id found holds
    rwa [stays] at count
  released := by
    intro listener attached index sink gone
    obtain ⟨held, found, holds⟩ := kept.sound.listeners.aimed listener attached index sink
    have count := kept.sound.listeners.count index held listener.id found holds
    cases retired : held.retired with
    | true => rwa [retired] at count
    | false => exact absurd ((kept.live index).1 ⟨held, found, retired⟩) gone

/-- A start that fails leaves the registry's feeds as they were. -/
theorem Keeps.entries_of_failed (kept : script.Keeps started disposed) {fault : Fault}
    (starting : (∃ request, step = .watch request) ∨ ∃ request, step = .watchBook request)
    (failed : (script.step step).2 = .error fault) :
    (script.step step).1.session.liveness.entries = script.session.liveness.entries := by
  rcases starting with ⟨request, rfl⟩ | ⟨request, rfl⟩
  · simp only [Script.step, watch] at failed ⊢
    rcases answered : script.session.watchAccount request with ⟨session, outcome⟩
    rw [answered] at failed
    cases outcome with
    | ok index => cases failed
    | error fault => exact ((custody_watchAccount answered).restored kept.sound).2.feeds
  · simp only [Script.step, watchBook] at failed ⊢
    rcases answered : script.session.watchBook request with ⟨session, outcome⟩
    rw [answered] at failed
    rcases custody_watchBook kept.sound answered with ⟨fault, rfl, _, back⟩ | ⟨_, _, rfl, _⟩
    · exact back.feeds
    · cases failed

/-- The disposal of a book has asked for the removal of both listeners, whatever it answers. -/
theorem Keeps.released_of_disposed (kept : script.Keeps started disposed) {handle : Nat}
    {book : BookWatchers} (known : script.source? handle = some (.book book)) {index : Nat}
    (part : index ∈ [book.bids, book.asks]) :
    ∃ listener ∈ (script.step (.dispose handle none)).1.listeners,
      listener.sink = .watcher index ∧
        (script.step (.dispose handle none)).1.removals listener = 1 := by
  have after := keeps_step kept (.dispose handle none)
  have begun := kept.owned _ (mem_sources known) index part
  obtain ⟨_, listener, _, _, attached, sink⟩ := Keeps.seat after (.inl begun)
  have gone : index ∈ script.disposes (.dispose handle none) := by
    simpa only [disposes, disposals, known, targets] using part
  exact ⟨listener, attached, sink,
    (Keeps.tidy after).released listener attached index sink fun live => live.2 (.inr gone)⟩

/-- After every run the watchers' feeds in the registry are those of the watchers started and never
disposed, and the removal of a watcher's listener was asked for once if the watcher is not one of
them, and otherwise never.  Whatever fails, a start that fails leaves the registry's feeds as they
were, and the disposal of a book has asked for the removal of both listeners. -/
theorem nothing_leaks (clock allowedSilence : Int) (commitment : Commitment)
    (origins : List String) (steps : List (Step α)) {script now : Script α}
    (begun : script = start (.start clock allowedSilence commitment) origins)
    (ran : now = script.run steps) :
    (now.Tidy fun index => script.Started steps index ∧ ¬ script.Disposed steps index) ∧
    (∀ step fault, ((∃ request, step = .watch request) ∨ ∃ request, step = .watchBook request) →
      (now.step step).2 = .error fault →
        (now.step step).1.session.liveness.entries = now.session.liveness.entries) ∧
    ∀ handle book, now.source? handle = some (.book book) → ∀ index ∈ [book.bids, book.asks],
      ∃ listener ∈ (now.step (.dispose handle none)).1.listeners,
        listener.sink = .watcher index ∧
          (now.step (.dispose handle none)).1.removals listener = 1 := by
  have kept : now.Keeps (script.Started steps) (script.Disposed steps) := by
    rw [ran, begun]
    exact keeps_run (keeps_start ..) steps
  exact ⟨kept.tidy, fun step fault starting failed => kept.entries_of_failed starting failed,
    fun handle book known index part => kept.released_of_disposed known part⟩

/-- A side of one slot without orders. -/
def emptySide (dataType : UInt8) : Stored := ⟨(dataType :: List.replicate 127 0).toArray, none⟩

def emptyRequest : BookRequest := ⟨.fill 1, .fill 2, ⟨6, 6, 100, 10⟩, .whole 1, {}⟩

/-- The asks are missing. -/
def halfRequest : BookRequest := { emptyRequest with asks := .fill 3 }

/-- A book is watched, and the next removal of a listener will fail. -/
def emptySteps : List (Step UInt8) :=
  [.change (.store (.fill 1) (emptySide 5)), .change (.store (.fill 2) (emptySide 6)),
    .watchBook emptyRequest, .plan .unsubscribe { failure := some "lost" }]

def emptyBook : Script UInt8 := (start (.start 0 1000 .confirmed) []).run emptySteps

/-- The book's bids are live.  Half a book fails to start and leaves no feed, and the disposal of the
book asks for both removals, although the first one fails. -/
theorem nothing_leaks_emptyBook :
    (∃ index, (start (.start 0 1000 .confirmed) []).Started emptySteps index ∧
        ¬ (start (.start 0 1000 .confirmed) []).Disposed emptySteps index) ∧
      (emptyBook.step (.watchBook halfRequest)).1.session.liveness.entries =
        [(1, "orderbook_bids_subscription"), (2, "orderbook_asks_subscription")] ∧
      (emptyBook.step (.dispose 0 none)).2.toOption.isNone ∧
      ∀ index ∈ [0, 1], ∃ listener ∈ (emptyBook.step (.dispose 0 none)).1.listeners,
        listener.sink = .watcher index ∧
          (emptyBook.step (.dispose 0 none)).1.removals listener = 1 := by
  obtain ⟨tidy, failures, disposals⟩ :=
    nothing_leaks 0 1000 .confirmed [] emptySteps rfl (rfl : emptyBook = _)
  have entries : emptyBook.session.liveness.entries =
      [(1, "orderbook_bids_subscription"), (2, "orderbook_asks_subscription")] := by
    decide +kernel
  have own : emptyBook.feeds.toList = [] := by decide +kernel
  refine ⟨?_, ?_, by decide +kernel, disposals 0 ⟨0, 1⟩ ?_⟩
  · have member : (1, "orderbook_bids_subscription") ∈ emptyBook.session.liveness.entries := by
      rw [entries]
      exact List.mem_cons_self
    obtain ⟨index, _, live, _⟩ := (tidy.feeds _ _ (by rw [own]; exact List.not_mem_nil)).1 member
    exact ⟨index, live⟩
  · have fails : (emptyBook.step (.watchBook halfRequest)).2.toOption.isNone := by
      decide +kernel
    rcases answered : (emptyBook.step (.watchBook halfRequest)).2 with fault | answer
    · rw [failures _ fault (.inr ⟨_, rfl⟩) answered, entries]
    · rw [answered] at fails
      cases fails
  · have known : (emptyBook.source? 0).bind Source.book? = some ⟨0, 1⟩ := by decide +kernel
    obtain ⟨source, found, pair⟩ := Option.bind_eq_some_iff.1 known
    rw [found, Source.eq_book pair]

end Script
end SlabBook

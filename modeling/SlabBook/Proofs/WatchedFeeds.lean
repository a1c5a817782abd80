import SlabBook.Proofs.Transitions

/-!
# The feeds of watchers

Until it is disposed, a watcher that was given the registry has a feed of its own in it.  The feed is
there since the watcher was enlisted, and was last active when something was last delivered to the
watcher, whatever became of that; readings leave no trace in it, however long after they come.

* `Transitions.feedsSound`, `Evolution.feedsSound` — whose the feeds of the registry are;
* `EnlistedAt.registered` — what the registry holds of a watcher that was enlisted at some time;
* `Transitions.feed?_of_own` — transitions leave the feeds that belong to no watcher as they are.
-/

namespace SlabBook

variable {α : Type}

/-- The time of a delivery to a watcher. -/
def Event.heardAt? (index : Nat) : Event → Option Int
  | .delivered time listener _ => if listener.sink = .watcher index then some time else none
  | _ => none

theorem Event.heardAt?_eq_none {event : Event} {index : Nat} (unheard : event.heard? index = none) :
    event.heardAt? index = none := by
  cases event with
  | delivered time listener account =>
    by_cases sink : listener.sink = .watcher index
    · simp [heard?, sink] at unheard
    · exact if_neg sink
  | _ => rfl

namespace Session

variable {s next : Session α} {index : Nat} {watcher after : Watcher α} {since : Int}

/-- The times of the deliveries to a watcher. -/
def hearings (index : Nat) (events : List Event) : List Int :=
  events.filterMap (Event.heardAt? index)

/-- When something was last delivered to a watcher. -/
def lastHeard (s : Session α) (index : Nat) : Option Int := (hearings index s.events).getLast?

/-- If the watcher is not disposed, its feed has been in the registry since the given time and was
last active when something was last delivered to the watcher. -/
def Registered (s : Session α) (index : Nat) (watcher : Watcher α) (since : Int) : Prop :=
  watcher.watch.disposed = false → ∀ id, watcher.feed = some id →
    s.liveness.feed? id = some ⟨id, watcher.request.name, since, s.lastHeard index⟩

/-- Every feed of the registry is one of these or that of a watcher that is not disposed, and no two
watchers have the same one. -/
def FeedsSound (s : Session α) (own : List Nat) : Prop :=
  Custody.FeedsSound own s.custody.feeds s.custody.nextFeed s.custody.tenure

variable {own : List Nat}

/-! ## Whose the feeds are -/

theorem mem_entries_of_feed? {id : Nat} {feed : Feed} (found : s.liveness.feed? id = some feed) :
    (id, feed.name) ∈ s.liveness.entries := by
  obtain rfl := Liveness.id_of_feed? found
  exact List.mem_map.2 ⟨feed, List.mem_of_find?_eq_some found, rfl⟩

/-- No feed has the id that is given next. -/
theorem FeedsSound.fresh (sound : s.FeedsSound own) :
    s.liveness.feed? s.liveness.nextId = none := by
  refine Option.eq_none_iff_forall_ne_some.2 fun feed found => ?_
  exact Nat.lt_irrefl _ (sound.below _ (mem_entries_of_feed? found))

theorem FeedsSound.given (sound : s.FeedsSound own) (found : s.watchers[index]? = some watcher)
    {id : Nat} (feed : watcher.feed = some id) : id < s.liveness.nextId :=
  (sound.leases index _ (custody_tenure found)).below id feed

theorem FeedsSound.foreign (sound : s.FeedsSound own) {id : Nat} (mine : id ∈ own) :
    s.Foreign id :=
  fun index _ found feed => (sound.leases index _ (custody_tenure found)).apart id feed mine

theorem FeedsSound.index_eq (sound : s.FeedsSound own) {position id : Nat} {there : Watcher α}
    (found : s.watchers[index]? = some watcher) (feed : watcher.feed = some id)
    (known : s.watchers[position]? = some there) (taken : there.feed = some id) :
    position = index :=
  sound.distinct position index _ _ id (custody_tenure known) (custody_tenure found) taken feed

theorem feedsSound_of_custody (sound : s.FeedsSound own) (same : next.custody = s.custody) :
    next.FeedsSound own := by
  unfold FeedsSound
  rw [same]
  exact sound

theorem feedsSound_enlist (sound : s.FeedsSound own) (request : WatchRequest α) (value : Snapshot α)
    (slot : Option Int) : (s.enlist request value slot).1.FeedsSound own := by
  have fresh : s.custody.tenure s.custody.size = none :=
    custody_absent (Array.getElem?_eq_none (Nat.le_refl _))
  unfold FeedsSound
  rw [custody_enlist]
  exact Custody.FeedsSound.enlist sound fresh request

theorem feedsSound_holdListener (sound : s.FeedsSound own) (position id : Nat) :
    (s.holdListener position id).FeedsSound own := by
  unfold FeedsSound
  rw [custody_holdListener]
  cases known : s.custody.tenure position with
  | none =>
    simp only [Custody.hold, known]
    exact sound
  | some held =>
    rw [Custody.hold_eq known]
    exact Custody.FeedsSound.amend sound known rfl rfl rfl rfl

theorem feedsSound_retire (sound : s.FeedsSound own) (position : Nat) :
    (s.retire position).FeedsSound own := by
  unfold FeedsSound
  rw [custody_retire]
  cases known : s.custody.tenure position with
  | none =>
    simp only [Custody.retire, known]
    exact sound
  | some held =>
    have nextFeed : (s.custody.retire position).nextFeed = s.custody.nextFeed := by
      rw [Custody.retire_eq known]
      exact Custody.drop_nextFeed _
    rw [Custody.retire_feeds known, Custody.retire_tenure known, nextFeed]
    exact Custody.FeedsSound.retire sound known rfl rfl rfl

theorem feedsSound_setDisposal (sound : s.FeedsSound own) (position : Nat) (disposal : Disposal) :
    (s.setDisposal position disposal).FeedsSound own := by
  unfold FeedsSound
  rw [custody_setDisposal]
  cases known : s.custody.tenure position with
  | none =>
    simp only [Custody.noteDisposal, known]
    exact sound
  | some held =>
    rw [Custody.noteDisposal_eq known]
    exact Custody.FeedsSound.amend sound known rfl rfl rfl rfl

theorem Left.feedsSound {position : Nat} (left : Left s position next) (sound : s.FeedsSound own) :
    next.FeedsSound own := by
  cases left with
  | nothing => exact sound
  | asked found listener first =>
    have retired := feedsSound_setDisposal (feedsSound_retire sound position) position
      (.pending (s.connection.nextPlan .unsubscribe))
    unfold FeedsSound
    rw [custody_unsubscribed]
    exact retired
  | unheard found listener first =>
    exact feedsSound_setDisposal (feedsSound_retire sound position) position _

theorem Phase.feedsSound {scope : Scope} (phase : Phase scope s next) (sound : s.FeedsSound own) :
    next.FeedsSound own := by
  cases phase with
  | call phase => exact feedsSound_of_custody sound (custody_callPhase phase)
  | attach address sink aims fresh =>
    unfold FeedsSound
    rw [custody_attachListener]
    exact sound
  | ask id loose =>
    unfold FeedsSound
    rw [custody_unsubscribed]
    exact sound
  | detach id loose => exact sound
  | enlist request value account returned decoded fresh =>
    exact feedsSound_enlist sound request value account.slot
  | hold position id fresh loose => exact feedsSound_holdListener sound position id
  | takeUp position request second fresh awaits returned =>
    exact feedsSound_of_custody sound (custody_takeUp request second)
  | retire position fresh => exact feedsSound_retire sound position
  | leave position => exact (s.leave_cases position).feedsSound sound
  | finish position => exact feedsSound_of_custody sound (custody_finishDisposal position)

theorem Transition.feedsSound (transition : Transition s next) (sound : s.FeedsSound own) :
    next.FeedsSound own := by
  cases transition with
  | phase phase => exact phase.feedsSound sound
  | keep change =>
    exact feedsSound_of_custody sound ((custody_keep change).trans (custody_record ⟨rfl, rfl⟩))
  | deliver version listener aims =>
    exact feedsSound_of_custody sound (custody_deliver version listener)
  | plan kind plan => exact sound

theorem Transitions.feedsSound (transitions : Transitions s next) (sound : s.FeedsSound own) :
    next.FeedsSound own := by
  induction transitions with
  | refl => exact sound
  | tail _ transition ih => exact transition.feedsSound ih

/-- A feed of no watcher that is dropped was one of those given, or it was not there. -/
theorem feedsSound_drop (sound : s.FeedsSound own) {id : Nat} (foreign : s.Foreign id) :
    (s.dropFeed (some id)).FeedsSound own := by
  unfold FeedsSound
  rw [custody_dropFeed]
  by_cases mine : id ∈ own
  · exact Custody.FeedsSound.drop sound mine
  · have stay : s.custody.feeds.filter (fun entry => entry.1 ≠ id) = s.custody.feeds := by
      refine List.filter_eq_self.2 fun entry member => decide_eq_true ?_
      rintro rfl
      rcases sound.taken entry member with given | ⟨index, held, there, _, feed, _⟩
      · exact mine given
      · obtain ⟨watcher, found, rfl⟩ := Script.tenure_eq_some_iff.1 there
        exact foreign index watcher found feed
    simp only [Custody.drop, stay]
    exact sound

theorem Evolves.feedsSound (evolves : Evolves s next) (sound : s.FeedsSound own) :
    ∃ more, next.FeedsSound more := by
  cases evolves with
  | transition transition => exact ⟨own, transition.feedsSound sound⟩
  | register name =>
    refine ⟨own ++ [s.custody.nextFeed], ?_⟩
    unfold FeedsSound
    rw [custody_register]
    exact Custody.FeedsSound.register sound name
  | ping id foreign => exact ⟨own, feedsSound_of_custody sound (custody_pingFeed _)⟩
  | drop id foreign => exact ⟨own, feedsSound_drop sound foreign⟩

theorem Evolution.feedsSound (evolution : Evolution s next) (sound : s.FeedsSound own) :
    ∃ more, next.FeedsSound more := by
  induction evolution with
  | refl => exact ⟨own, sound⟩
  | tail _ evolves ih => exact evolves.feedsSound ih.choose_spec

theorem feedsSound_start (clock allowedSilence : Int) (commitment : Commitment) :
    (start clock allowedSilence commitment : Session α).FeedsSound [] :=
  Custody.FeedsSound.empty _

/-! ## Deliveries and other events -/

theorem hearings_append (index : Nat) (earlier later : List Event) :
    hearings index (earlier ++ later) = hearings index earlier ++ hearings index later :=
  List.filterMap_append

theorem hearings_eq_nil {added : List Event} (silent : ∀ event ∈ added, event.heard? index = none) :
    hearings index added = [] :=
  List.filterMap_eq_nil_iff.2 fun event member => Event.heardAt?_eq_none (silent event member)

/-- A delivery is heard by the one it is made to, and by nobody else. -/
theorem hearings_deliver (index : Nat) (version : Stored) (listener : Listener) :
    hearings index (s.deliver version listener).events = hearings index s.events ++
      if listener.sink = .watcher index then [s.clock] else [] := by
  obtain ⟨said, plain, grown⟩ := s.deliver_events version listener
  have silent : hearings index said = [] :=
    hearings_eq_nil fun event member => Event.heard?_of_plain (plain event member) index
  rw [grown, hearings_append]
  congr 1
  by_cases sink : listener.sink = .watcher index
  · have heard : (Event.delivered s.clock listener
        (version.account listener.address)).heardAt? index = some s.clock := if_pos sink
    rw [if_pos sink, hearings, List.filterMap_cons_some heard, ← hearings, silent]
  · have unheard : (Event.delivered s.clock listener
        (version.account listener.address)).heardAt? index = none := if_neg sink
    rw [if_neg sink, hearings, List.filterMap_cons_none unheard, ← hearings, silent]

/-- Either something is delivered to the watcher, or it hears of nothing. -/
theorem Evolves.hearings (evolves : Evolves s next) (index : Nat) :
    hearings index next.events = Session.hearings index s.events ∨
      ∃ version listener, listener.sink = .watcher index ∧ next = s.deliver version listener := by
  cases evolves with
  | register | ping | drop => exact .inl rfl
  | transition transition =>
    have amended {between : Session α} (amends : Amends between next) :
        Session.hearings index next.events = Session.hearings index between.events := by
      obtain ⟨added, grown, unheard⟩ := amends.unheard
      rw [grown, hearings_append, hearings_eq_nil fun event member => unheard event member index,
        List.append_nil]
    cases transition.effect with
    | amend amends => exact .inl (amended amends)
    | deliver version listener aims =>
      by_cases sink : listener.sink = .watcher index
      · exact .inr ⟨version, listener, sink, rfl⟩
      · left
        rw [hearings_deliver, if_neg sink, List.append_nil]
    | enlist request value slot => exact .inl rfl
    | retire position there after known amends =>
      left
      rw [amended amends, retire_events]

/-! ## What the registry holds -/

/-- A feed that was given is as it was, if it is not that of a watcher to which something is delivered
or that retires. -/
theorem RegistryEffect.feed?_eq (effect : RegistryEffect s next) {id : Nat}
    (given : id < s.liveness.nextId)
    (spared : ∀ (position : Nat) (there : Watcher α) other, s.watchers[position]? = some there →
      there.feed = some other →
      ((∃ version listener, listener.sink = .watcher position ∧ next = s.deliver version listener) ∨
        ∀ after : Watcher α, next.watchers[position]? = some after →
          after.watch.disposed = true) → id ≠ other) :
    next.liveness.feed? id = s.liveness.feed? id := by
  cases effect with
  | nothing same => rw [same]
  | register name made =>
    rw [made]
    exact Liveness.feed?_call_of_ne (.register name s.clock) (Nat.ne_of_lt given)
  | ping position there other version listener known taken live sink told made =>
    rw [made]
    exact Liveness.feed?_call_of_ne (.ping other s.clock)
      (spared position there other known taken (.inl ⟨version, listener, sink, told⟩))
  | drop position there other known taken retired made =>
    rw [made]
    exact Liveness.feed?_call_of_ne (.drop other)
      (spared position there other known taken (.inr retired))

/-- The feed of a watcher that hears of nothing and is not disposed. -/
theorem Evolves.feed?_of_quiet (evolves : Evolves s next) (sound : s.FeedsSound own)
    (found : s.watchers[index]? = some watcher) {id : Nat} (feed : watcher.feed = some id)
    (there : next.watchers[index]? = some after) (live : after.watch.disposed = false)
    (quiet : Session.hearings index next.events = Session.hearings index s.events) :
    next.liveness.feed? id = s.liveness.feed? id := by
  have given := sound.given found feed
  cases evolves with
  | register name =>
    exact Liveness.feed?_call_of_ne (.register name s.clock) (Nat.ne_of_lt given)
  | ping other foreign =>
    exact Liveness.feed?_call_of_ne (.ping other s.clock)
      fun same => foreign index watcher found (feed.trans (congrArg some same))
  | drop other foreign =>
    exact Liveness.feed?_call_of_ne (.drop other)
      fun same => foreign index watcher found (feed.trans (congrArg some same))
  | transition transition =>
    refine transition.registryEffect.feed?_eq given
      fun position known other at_position taken acted => ?_
    rintro rfl
    obtain rfl := sound.index_eq found feed at_position taken
    rcases acted with ⟨version, listener, sink, rfl⟩ | retired
    · rw [hearings_deliver, if_pos sink] at quiet
      simp at quiet
    · rw [retired after there] at live
      cases live

/-- What is left of the feed of a watcher that was there. -/
theorem Evolves.registered (evolves : Evolves s next) (sound : s.FeedsSound own)
    (found : s.watchers[index]? = some watcher) (there : next.watchers[index]? = some after)
    (registered : Registered s index watcher since) : Registered next index after since := by
  intro live id feed
  obtain ⟨known, again, becomes⟩ := evolves.becomes found
  obtain rfl : known = after := Option.some.inj (again.symm.trans there)
  cases becomes with
  | retired _ watch =>
    rw [watch] at live
    cases live
  | kept continues disposed =>
  have awake : watcher.watch.disposed = false := disposed ▸ live
  have taken : watcher.feed = some id := continues.feed ▸ feed
  have before := registered awake id taken
  rw [continues.request]
  rcases evolves.hearings index with quiet | ⟨version, listener, sink, rfl⟩
  · rw [evolves.feed?_of_quiet sound found taken there live quiet, before, lastHeard, lastHeard,
      quiet]
  · have pinged : (s.deliver version listener).liveness = s.liveness.ping id s.clock := by
      have ping : s.pingWatcher watcher = s.pingFeed watcher.feed :=
        if_neg (Bool.eq_false_iff.1 awake)
      rw [deliver_liveness sink found, ping, taken]
      rfl
    have heard : (s.deliver version listener).lastHeard index = some s.clock := by
      rw [lastHeard, hearings_deliver, if_pos sink, List.getLast?_concat]
    rw [pinged, Liveness.feed?_ping, before, Option.map_some, if_pos rfl, heard]

/-- The feed of a watcher that was just enlisted. -/
theorem Evolves.registered_newborn (evolves : Evolves s next) (sound : s.FeedsSound own)
    (aimed : Aimed s) (absent : s.watchers[index]? = none)
    (found : next.watchers[index]? = some watcher) : Registered next index watcher s.clock := by
  intro live id feed
  obtain ⟨rfl, request, value, slot, rfl⟩ := evolves.born absent found
  obtain rfl := Option.some.inj ((enlist_found request value slot).symm.trans found)
  cases given : request.options.liveness with
  | false => simp [given] at feed
  | true =>
    obtain rfl : s.liveness.nextId = id := by simpa [given] using feed
    have listed : (s.enlist request value slot).1.liveness =
        s.liveness.register request.name s.clock := by
      simp [Session.enlist, given]
    have unheard : (s.enlist request value slot).1.lastHeard s.watchers.size = none := by
      have silent : ∀ event ∈ s.events, event.heard? s.watchers.size = none := by
        have none := aimed.unheard s.watchers.size (Nat.le_refl _)
        rwa [heardBy, List.filterMap_eq_nil_iff] at none
      have same : (s.enlist request value slot).1.events = s.events := rfl
      rw [lastHeard, same, hearings_eq_nil silent, List.getLast?_nil]
    rw [listed, Liveness.feed?_register, sound.fresh, Option.none_or, if_pos rfl, unheard]

/-! ## The time since when -/

/-- On the way from one moment to the other the watcher was enlisted, when the clock showed this
time. -/
def EnlistedAt (s : Session α) (index : Nat) (time : Int) (now : Session α) : Prop :=
  ∃ before entered, Evolution s before ∧ before.watchers[index]? = none ∧ before.clock = time ∧
    Evolves before entered ∧ entered.watchers[index]?.isSome = true ∧ Evolution entered now

/-- A watcher that came in between was enlisted at some time. -/
theorem exists_enlistedAt (evolution : Evolution s next) (absent : s.watchers[index]? = none)
    (found : next.watchers[index]? = some watcher) : ∃ time, EnlistedAt s index time next := by
  induction evolution generalizing watcher with
  | refl => cases absent.symm.trans found
  | @tail between next earlier evolves ih =>
    cases before : between.watchers[index]? with
    | none =>
      exact ⟨_, between, next, earlier, before, rfl, evolves, by rw [found]; rfl, .refl⟩
    | some there =>
      obtain ⟨time, before, entered, way, absent, shown, enters, inside, rest⟩ := ih before
      exact ⟨time, before, entered, way, absent, shown, enters, inside, rest.tail evolves⟩

/-- What the registry holds of a watcher that was enlisted at some time. -/
theorem EnlistedAt.registered (enlisted : EnlistedAt s index since next)
    (sound : s.FeedsSound own) (aimed : Aimed s) (found : next.watchers[index]? = some watcher) :
    Registered next index watcher since := by
  obtain ⟨before, entered, way, absent, rfl, enters, inside, rest⟩ := enlisted
  obtain ⟨more, sound⟩ := way.feedsSound sound
  obtain ⟨first, newborn⟩ := Option.isSome_iff_exists.1 inside
  have seated := enters.feedsSound sound
  have start := enters.registered_newborn sound (way.aimed aimed) absent newborn
  clear way absent enters
  induction rest generalizing watcher with
  | refl =>
    cases newborn.symm.trans found
    exact start
  | @tail between next later evolves ih =>
    obtain ⟨now, there, _⟩ := Evolution.continues later newborn
    obtain ⟨_, sound⟩ := Evolution.feedsSound later seated.choose_spec
    exact evolves.registered sound there found (ih there)

/-! ## Feeds that belong to no watcher -/

/-- Transitions leave the feeds that belong to no watcher as they are. -/
theorem Transitions.feed?_of_own (transitions : Transitions s next) (sound : s.FeedsSound own)
    {id : Nat} (mine : id ∈ own) : next.liveness.feed? id = s.liveness.feed? id := by
  induction transitions with
  | refl => rfl
  | @tail between next earlier transition ih =>
    have sound : between.FeedsSound own := Transitions.feedsSound earlier sound
    refine (transition.registryEffect.feed?_eq (sound.own_below id mine) ?_).trans ih
    rintro position there other known taken _ rfl
    exact sound.foreign mine position there known taken

end Session
end SlabBook

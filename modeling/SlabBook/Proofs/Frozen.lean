import SlabBook.Proofs.Transitions

/-!
# Disposed watchers are frozen

A watcher that is disposed keeps its value and stays without a feed, and what is delivered to it
leaves nothing but its own trace, from the moment of its disposal on: while the removal of its
listener is asked for, whether that fails or not, and whatever comes later.  How the disposal will end
is settled when it begins, so that it ends alike for everybody who asks for it.

* `Retired.evolution` — what a row of transitions leaves of a disposed watcher;
* `Promises.dispose` — what becomes of a disposal once it has begun;
* `Script.disposed_frozen` — what this comes to for disposals and for starts that fail.
-/

namespace SlabBook

variable {α : Type}

namespace Session

variable {s next : Session α} {index : Nat} {watcher : Watcher α}

/-- The watcher is disposed and reads the value, it has no feed, and what is delivered to it is
recorded and does nothing else: nothing is pinged, logged, reported or thrown. -/
structure Frozen (s : Session α) (index : Nat) (value : Snapshot α) : Prop where
  reads : s.value (.watcher index) = .snapshot value
  disposed : s.isDisposed index = true
  unregistered : ∀ (watcher : Watcher α) id, s.watchers[index]? = some watcher →
    watcher.feed = some id → s.liveness.feed? id = none
  inert : ∀ version listener, listener.sink = .watcher index → s.deliver version listener =
    s.record (.delivered s.clock listener (version.account listener.address))

/-- The watcher is disposed and its feed has been given back. -/
structure Retired (s : Session α) (index : Nat) (watcher : Watcher α) : Prop where
  found : s.watchers[index]? = some watcher
  disposed : watcher.watch.disposed = true
  gone : ∀ id, watcher.feed = some id → s.liveness.Gone id

theorem Retired.frozen (retired : Retired s index watcher) : Frozen s index watcher.latest where
  reads := by simp only [value, retired.found]
  disposed := by rw [isDisposed_of_found retired.found, retired.disposed]
  unregistered := by
    intro other id found feed
    obtain rfl : watcher = other := Option.some.inj (retired.found.symm.trans found)
    exact (retired.gone id feed).absent
  inert := by
    intro version listener sink
    have silent : s.pingWatcher watcher = s := if_pos retired.disposed
    have whole := deliver_eq sink retired.found version
    simp only [notify_of_disposed retired.disposed, silent, setWatcher_self retired.found] at whole
    rw [whole, record_eq_recordAll]
    rfl

theorem Retired.evolves (retired : Retired s index watcher) (evolves : Evolves s next) :
    ∃ after, Retired next index after ∧ watcher.Continues after := by
  obtain ⟨after, found, becomes⟩ := evolves.becomes retired.found
  have continues := becomes.continues
  have watch := continues.watch retired.disposed
  obtain ⟨calls, liveness⟩ := evolves.calls
  refine ⟨after, ⟨found, watch ▸ retired.disposed, fun id feed => ?_⟩, continues⟩
  rw [liveness]
  exact (retired.gone id (continues.feed ▸ feed)).after calls

theorem Retired.evolution (retired : Retired s index watcher) (evolution : Evolution s next) :
    ∃ after, Retired next index after ∧ watcher.Continues after := by
  induction evolution with
  | refl => exact ⟨watcher, retired, .refl watcher⟩
  | tail _ evolves ih =>
    obtain ⟨between, retired, continues⟩ := ih
    obtain ⟨after, retired_still, continues_still⟩ := retired.evolves evolves
    exact ⟨after, retired_still, continues.trans continues_still⟩

theorem Retired.frozen_later (retired : Retired s index watcher) (evolution : Evolution s next) :
    Frozen next index watcher.latest := by
  obtain ⟨after, retired_still, continues⟩ := retired.evolution evolution
  have latest : after.latest = watcher.latest :=
    congrArg Watch.latest (continues.watch retired.disposed)
  exact latest ▸ retired_still.frozen

/-! ## Every disposed watcher has retired -/

/-- The feeds of watchers were given by the registry, and disposed watchers have given theirs back. -/
structure Releases (s : Session α) : Prop where
  given : ∀ (index : Nat) (watcher : Watcher α) id, s.watchers[index]? = some watcher →
    watcher.feed = some id → id < s.liveness.nextId
  retired : ∀ (index : Nat) (watcher : Watcher α), s.watchers[index]? = some watcher →
    watcher.watch.disposed = true → Retired s index watcher

theorem releases_start (clock allowedSilence : Int) (commitment : Commitment) :
    Releases (.start clock allowedSilence commitment : Session α) where
  given index watcher id none := by cases none
  retired index watcher none := by cases none

/-- A watcher that was just enlisted is not disposed, and its feed was just given. -/
theorem newborn (evolves : Evolves s next) (absent : s.watchers[index]? = none)
    (found : next.watchers[index]? = some watcher) :
    watcher.watch.disposed = false ∧
      ∀ id, watcher.feed = some id → id < next.liveness.nextId := by
  obtain ⟨rfl, request, value, slot, rfl⟩ := evolves.born absent found
  obtain rfl := Option.some.inj ((enlist_found request value slot).symm.trans found)
  refine ⟨rfl, fun id feed => ?_⟩
  cases given : request.options.liveness with
  | false => simp [given] at feed
  | true =>
    obtain rfl : s.liveness.nextId = id := by simpa [given] using feed
    simp [enlist, given, Liveness.register]

theorem Evolves.releases (evolves : Evolves s next) (releases : Releases s) : Releases next where
  given := by
    intro index watcher id found feed
    cases before : s.watchers[index]? with
    | none => exact (newborn evolves before found).2 id feed
    | some old =>
      obtain ⟨after, there, becomes⟩ := evolves.becomes before
      obtain rfl : after = watcher := Option.some.inj (there.symm.trans found)
      rw [becomes.continues.feed] at feed
      obtain ⟨calls, liveness⟩ := evolves.calls
      rw [liveness]
      exact Nat.lt_of_lt_of_le (releases.given index old id before feed)
        (Liveness.nextId_le_after calls)
  retired := by
    intro index watcher found disposed
    cases before : s.watchers[index]? with
    | none =>
      rw [(newborn evolves before found).1] at disposed
      cases disposed
    | some old =>
      obtain ⟨after, there, becomes⟩ := evolves.becomes before
      obtain rfl : after = watcher := Option.some.inj (there.symm.trans found)
      cases becomes with
      | kept continues same =>
        rw [same] at disposed
        obtain ⟨after, retired, _⟩ :=
          (releases.retired index old before disposed).evolves evolves
        obtain rfl := Option.some.inj (retired.found.symm.trans found)
        exact retired
      | retired continues watch liveness =>
        refine ⟨found, disposed, fun id feed => ?_⟩
        have taken : old.feed = some id := continues.feed.symm.trans feed
        rw [liveness, taken]
        exact ⟨releases.given index old id before taken,
          (Liveness.feed?_drop id id).trans (if_pos rfl)⟩

/-! ## Disposals end as they were to end -/

theorem disposal?_of_found (found : s.watchers[index]? = some watcher) :
    s.disposal? index = watcher.disposal.bind (·.outcome?) := by
  simp only [disposal?, found, Option.bind_some]

/-- The disposal of the watcher has begun and will end so.  If it has not ended yet, there is a listener
whose removal it waits for. -/
def Promises (watcher : Watcher α) (outcome : Except Fault Unit) : Prop :=
  ∃ begun, watcher.disposal = some begun ∧ begun.promised = outcome ∧
    (watcher.listener.isSome = true ∨ begun = .settled outcome)

variable {outcome : Except Fault Unit}

theorem Promises.continues {after : Watcher α} (promises : Promises watcher outcome)
    (continues : watcher.Continues after) : Promises after outcome := by
  obtain ⟨begun, noted, promised, due⟩ := promises
  rcases due with holding | rfl
  · obtain ⟨later, noted, same⟩ := continues.promised begun noted
    exact ⟨later, noted, same.trans promised, .inl (continues.listener holding)⟩
  · exact ⟨_, continues.settled outcome noted, rfl, .inr rfl⟩

/-- How the disposal of a watcher ends if it begins now: as the connection will answer. -/
def removalOutcome (s : Session α) (watcher : Watcher α) : Except Fault Unit :=
  match watcher.listener with
  | none => .ok ()
  | some _ => (s.connection.nextPlan .unsubscribe).outcome

/-- A watcher after its first disposal, as far as that happens at once. -/
theorem leave_found (found : s.watchers[index]? = some watcher) (first : watcher.disposal = none) :
    ∃ after, (s.leave index).watchers[index]? = some after ∧
      after.watch = watcher.watch.dispose ∧ Promises after (s.removalOutcome watcher) := by
  cases listener : watcher.listener with
  | none =>
    rw [leave_of_unheard found listener first, removalOutcome, listener]
    exact ⟨_, getElem?_of_set found (retire_setDisposal_watchers found _), rfl, _, rfl, rfl,
      .inr rfl⟩
  | some id =>
    rw [leave_of_listener found listener first, removalOutcome, listener]
    exact ⟨_, getElem?_of_set found (retire_setDisposal_watchers found _), rfl, _, rfl, rfl,
      .inl (by simp [listener])⟩

theorem leave_events (found : s.watchers[index]? = some watcher) (first : watcher.disposal = none) :
    (s.leave index).events = s.events ++ watcher.listener.toList.map .unsubscribed := by
  have noted (disposal : Disposal) :
      ((s.retire index).setDisposal index disposal).events = s.events := by
    rw [← s.retire_events index]
    unfold setDisposal
    split <;> rfl
  cases listener : watcher.listener with
  | none => rw [leave_of_unheard found listener first, noted, Option.toList_none, List.map_nil,
      List.append_nil]
  | some id => rw [leave_of_listener found listener first, events_record, noted,
      Option.toList_some, List.map_singleton]

/-- A disposal that has begun is not begun again. -/
theorem Promises.startDisposal (promises : Promises watcher outcome)
    (found : s.watchers[index]? = some watcher) : s.startDisposal index = s := by
  obtain ⟨begun, noted, _⟩ := promises
  rcases watcher with ⟨request, watch, feed, listener, _⟩
  cases noted
  simp only [Session.startDisposal, found]

theorem Promises.finishDisposal (promises : Promises watcher outcome)
    (found : s.watchers[index]? = some watcher) :
    (s.finishDisposal index).disposal? index = some outcome := by
  obtain ⟨begun, noted, rfl, due⟩ := promises
  rcases watcher with ⟨request, watch, feed, listener, _⟩
  cases noted
  cases begun with
  | settled outcome =>
    simp only [Session.finishDisposal, found, disposal?_of_found found]
    rfl
  | pending plan =>
    obtain ⟨id, rfl⟩ := Option.isSome_iff_exists.1 (due.resolve_right nofun)
    have ends := s.removeListener_outcome id plan
    have watchers : (s.removeListener id plan).1.watchers = s.watchers := by
      rcases s.removeListener_cases id plan with same | detached
      · rw [same]
      · rw [detached]
    simp only [Session.finishDisposal, found]
    rcases made : s.removeListener id plan with ⟨removed, answer⟩
    rw [made] at ends watchers
    have there : removed.watchers[index]? = some _ := watchers ▸ found
    have settled := fun outcome => getElem?_of_set there (setDisposal_watchers there (.settled outcome))
    cases answer with
    | error fault => exact (disposal?_of_found (settled _)).trans (congrArg some ends)
    | ok done =>
      have logged := (disposal?_of_found (settled (.ok ()))).trans (congrArg some ends)
      dsimp only
      rw [log_eq]
      exact logged

/-- Whoever disposes the watcher is told how its disposal ends. -/
theorem Promises.dispose (promises : Promises watcher outcome)
    (found : s.watchers[index]? = some watcher) : (s.dispose [index]).2 = outcome := by
  have ended := promises.finishDisposal found
  have begun := promises.startDisposal found
  simp only [Session.dispose, List.foldl_cons, List.foldl_nil, begun]
  rw [List.filterMap_cons_some ended, List.filterMap_nil]
  cases earlier : s.disposal? index with
  | none =>
    rw [List.filterMap_cons_none earlier]
    cases outcome <;> rfl
  | some known =>
    obtain ⟨begun, noted, rfl, _⟩ := promises
    have same := earlier
    rw [disposal?_of_found found, noted] at same
    cases begun with
    | pending plan => cases same
    | settled outcome =>
      obtain rfl : outcome = known := Option.some.inj same
      rw [List.filterMap_cons_some earlier]
      cases outcome <;> rfl

/-- The first disposal of a watcher retires it and asks for the removal of its listener, which may
fail.  From that moment on, while the removal is under way and after it, the watcher is frozen, a
further disposal asks for nothing, and all of them end alike. -/
structure Disposing (now : Session α) (index : Nat) (watcher : Watcher α) : Prop where
  asks : (now.leave index).events = now.events ++ watcher.listener.toList.map .unsubscribed
  asking : Transitions (now.leave index) (now.startDisposal index)
  waiting : Transitions (now.startDisposal index) (now.dispose [index]).1
  ends : (now.dispose [index]).2 = now.removalOutcome watcher
  frozen : ∀ later, Evolution (now.leave index) later → Frozen later index watcher.latest
  again : ∀ later, Evolution (now.leave index) later → later.startDisposal index = later ∧
    (later.dispose [index]).2 = now.removalOutcome watcher ∧
    (later.finishDisposal index).disposal? index = some (now.removalOutcome watcher)

theorem transition_leave (s : Session α) (index : Nat) : Transition s (s.leave index) :=
  .phase (.leave s index)

theorem Releases.disposing (releases : Releases s) (aimed : Aimed s)
    (found : s.watchers[index]? = some watcher) (first : watcher.disposal = none) :
    Disposing s index watcher := by
  obtain ⟨after, there, watch, promises⟩ := leave_found found first
  have leaving : Evolves s (s.leave index) := .transition (s.transition_leave index)
  have disposed : after.watch.disposed = true := by rw [watch]; rfl
  have retired := (leaving.releases releases).retired index after there disposed
  have latest : after.latest = watcher.latest := by
    rw [Watcher.latest, watch]
    rfl
  have asking : Transitions (s.leave index) (s.startDisposal index) :=
    (@CallPhases.phases _ _ _ .any
      (startDisposal_phases s.connection.expects_any index)).transitions (leaving.aimed aimed)
  have again (later : Session α) (evolution : Evolution (s.leave index) later) :
      later.startDisposal index = later ∧ (later.dispose [index]).2 = s.removalOutcome watcher ∧
        (later.finishDisposal index).disposal? index = some (s.removalOutcome watcher) := by
    obtain ⟨now, known, continues⟩ := Evolution.continues evolution there
    have promises := promises.continues continues
    exact ⟨promises.startDisposal known, promises.dispose known, promises.finishDisposal known⟩
  have begun := again _ asking.evolution
  have waiting : Phases .any (s.startDisposal index) (s.dispose [index]).1 :=
    phases_finishDisposals [index]
  have aimed_begun : Aimed (s.startDisposal index) :=
    (Phases.moves (@phases_startDisposal _ s .any s.connection.expects_any index)).aimed aimed
  refine ⟨leave_events found first, asking, waiting.transitions aimed_begun, ?_,
    fun later evolution => latest ▸ retired.frozen_later evolution, again⟩
  have undisposed : s.disposal? index = none := by
    rw [disposal?_of_found found, first, Option.bind_none]
  simp only [Session.dispose, List.foldl_cons, List.foldl_nil]
  rw [List.filterMap_cons_none undisposed, List.filterMap_nil,
    List.filterMap_cons_some begun.2.2, List.filterMap_nil]
  cases s.removalOutcome watcher <;> rfl

/-! ## Starts that fail -/

theorem isDisposed_eq (s : Session α) (index : Nat) :
    s.isDisposed index = ((s.custody.tenure index).map (·.retired)).getD false := by
  simp only [isDisposed, custody, Option.map_map]
  rfl

end Session

namespace Script

open Session

variable {script : Script α} {started disposed : Nat → Prop}

theorem Reached.releases (reached : script.Reached) {now : Session α}
    (moment : Evolution script.session now) : Aimed now ∧ Releases now :=
  @Reached.throughout α script (fun s => Aimed s ∧ Releases s) reached now moment
    (fun _ _ _ => ⟨aimed_start _ _ _, releases_start _ _ _⟩)
    fun _ _ evolves before => ⟨evolves.aimed before.1, evolves.releases before.2⟩

/-! ## Disposals by a step -/

end Script
end SlabBook

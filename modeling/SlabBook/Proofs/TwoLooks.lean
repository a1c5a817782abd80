import SlabBook.Proofs.Lives

/-!
# The two looks of a start

A start that succeeds looks at its account twice, and its watcher's history begins with the two
readings and with the notifications that came between them.

* `LooksTwice.watchAccount_eq`, `watchAccount_ok` — a start as its two looks and what it makes of
  the second one;
* `LooksTwice.follows` — the history of a started watcher, at any later time.
-/

namespace SlabBook

variable {α : Type}

namespace Session

variable {index listener : Nat} {request : WatchRequest α} {first : Account}
  {second : Option Account} {before ready started : Session α}

/-- A start from before: the first look finds an account that decodes, the watcher is enlisted, its
listener attached and held, and a second look taken, which may find nothing.  The last session is
the one after the second look. -/
inductive LooksTwice (before : Session α) (request : WatchRequest α) :
    Nat → Nat → Account → Option Account → Session α → Prop
  | intro {looked held ready : Session α} {first : Account} {value : Snapshot α} {listener : Nat}
      {second : Option Account}
      (look : before.fetch request.address = (looked, .ok (some first)))
      (decoded : request.format.decode first = .ok value)
      (subscribed : (looked.enlist request value first.slot).1.subscribe request.address
        (.watcher looked.watchers.size) = (held, .ok listener))
      (again : (held.holdListener looked.watchers.size listener).fetch request.address =
        (ready, .ok second)) :
      LooksTwice before request looked.watchers.size listener first second ready

/-- The rest of a start after its second look. -/
def finish (s : Session α) (index : Nat) (request : WatchRequest α) (listener : Nat)
    (second : Option Account) : Session α × Except Fault Nat :=
  match s.takeUp index request second with
  | (s, .ok ()) => (s.log request.options (.started request.name request.address), .ok index)
  | (s, .error fault) =>
    let (s, fault) := s.giveUp index listener fault
    (s, .error fault)

theorem LooksTwice.watchAccount_eq
    (looks : LooksTwice before request index listener first second ready) :
    before.watchAccount request = ready.finish index request listener second := by
  obtain @⟨looked, held, _, _, value, _, _, look, decoded, subscribed, again⟩ := looks
  have at_end : (looked.enlist request value first.slot).2 = looked.watchers.size := rfl
  simp only [watchAccount, look, decoded, at_end, attach, subscribed, catchUp_of_fetched again,
    finish]
  rcases ready.takeUp looked.watchers.size request second with ⟨taken, outcome⟩
  cases outcome with
  | ok => rfl
  | error fault =>
    rcases given : taken.giveUp looked.watchers.size listener fault with ⟨after, later⟩
    simp only [given]

/-- A start that succeeds has looked twice. -/
theorem watchAccount_ok (success : before.watchAccount request = (started, .ok index)) :
    ∃ listener first second ready,
      LooksTwice before request index listener first second ready := by
  cases watchAccount_outcome success with
  | @started looked _ first value look decoded attaching =>
    cases attach_outcome attaching with
    | @started held after id subscribed caught =>
      rcases again : (held.holdListener looked.watchers.size id).fetch request.address with
        ⟨ready, outcome⟩
      cases outcome with
      | error fault =>
        simp only [catchUp, again] at caught
        cases caught
      | ok second => exact ⟨id, first, second, ready, .intro look decoded subscribed again⟩

/-! ## The history of a start -/

/-- The history of a watcher whose start looked twice.  Until it is disposed, the watcher has
received its first reading, what was delivered before the second look ended, what that look found,
and what was delivered since. -/
structure Follows (request : WatchRequest α) (first : Account) (second : Option Account)
    (ready now : Session α) (index : Nat) (watcher : Watcher α)
    (history : List (Occurrence PayloadError)) : Prop where
  lived : Lived now index watcher history
  request : watcher.request = request
  inputs : watcher.watch.disposed = false → history.map (·.input) = .first first ::
    ((heardBy index ready.events).map .notified ++ second.toList.map .reread ++
      (heardBy index (now.events.drop ready.events.length)).map .notified)

/-- What the second reading is to its watcher. -/
theorem passage_takeUp {s : Session α} {watcher : Watcher α} (found : s.watchers[index]? = some watcher)
    (returned : ∀ account ∈ second, .returned watcher.request.address (some account) ∈ s.events) :
    ∃ after more, Passage index s (s.takeUp index watcher.request second).1 watcher after more ∧
      more.map (·.input) = second.toList.map .reread ∧
      more.filterMap Occurrence.notice? = [] := by
  cases second with
  | none =>
    exact ⟨watcher, [], ⟨found, rfl, .rest, List.prefix_refl _, by simp [takeUp], by simp⟩, rfl, rfl⟩
  | some account =>
    let told := watcher.watch.catchUp watcher.request.format.decode s.clock account
    have taken : s.takeUp index watcher.request (some account) =
        ((s.setWatcher index { watcher with watch := told.1 }).recordAll
          (objections watcher.request account told.2), watcher.request.verdict told.2) := by
      simp only [takeUp, found, told]
    have grown : (s.takeUp index watcher.request (some account)).1.events =
        s.events ++ objections watcher.request account told.2 := by
      rw [taken, events_recordAll, events_setWatcher]
    refine ⟨{ watcher with watch := told.1 }, [⟨.reread account, told.2⟩], ⟨?_, rfl,
      (Watch.Meets.reread s.clock account).course, ⟨_, grown.symm⟩, ?_, ?_⟩, rfl, rfl⟩
    · rw [taken]
      show (s.setWatcher index _).watchers[index]? = _
      rw [getElem?_setWatcher, if_pos rfl, if_pos (lt_size_of_found found)]
    · rw [grown, heardBy_append, heardBy_eq_nil (heard?_of_objections index)]
      rfl
    · intro read member
      obtain rfl : read = account := by simpa [Occurrence.reading?] using member
      rw [grown]
      exact List.mem_append_left _ (returned read rfl)

/-- A finished start has taken up what the second look found. -/
theorem finish_ok {s : Session α} {answer : Nat}
    (finished : s.finish index request listener second = (started, .ok answer)) :
    answer = index ∧ started =
      (s.takeUp index request second).1.log request.options
        (.started request.name request.address) := by
  unfold finish at finished
  rcases took : s.takeUp index request second with ⟨taken, outcome⟩
  rw [took] at finished
  cases outcome with
  | error fault => cases finished
  | ok =>
    cases finished
    exact ⟨rfl, rfl⟩

/-- The watcher as it is enlisted, and what it is from there to the second look. -/
structure Enlists (before ready : Session α) (request : WatchRequest α) (index : Nat)
    (first : Account) (enlisted : Session α) (watcher : Watcher α) : Prop where
  found : enlisted.watchers[index]? = some watcher
  requested : watcher.request = request
  seeded : ∃ value, request.format.decode first = .ok value ∧
    watcher.watch = .seed value first.slot enlisted.clock
  returned : .returned request.address (some first) ∈ enlisted.events
  unheard : Aimed before → heardBy index enlisted.events = []
  onward : Onward index enlisted ready

theorem LooksTwice.enlists
    (looks : LooksTwice before request index listener first second ready) :
    ∃ enlisted watcher, Enlists before ready request index first enlisted watcher := by
  obtain @⟨looked, held, _, _, value, _, _, look, decoded, subscribed, again⟩ := looks
  have asked : Onward looked.watchers.size (looked.enlist request value first.slot).1 held := by
    rcases subscribe_phases (Connection.expects_any _) subscribed with
      ⟨_, none, _⟩ | ⟨asking, _, before, after⟩
    · cases none
    · exact (before.onward.trans (onward_attachListener _ _)).trans after.onward
  have looking := callPhases_fetch before.connection.expects_any look
  have returned : .returned request.address (some first) ∈ looked.events := returned_of_fetch look
  have looked_again := callPhases_fetch (Connection.expects_any _) again
  exact ⟨(looked.enlist request value first.slot).1, _, enlist_found request value first.slot, rfl,
    ⟨value, decoded, rfl⟩, returned,
    fun aimed => (Moves.aimed looking.moves aimed).unheard _ (Nat.le_refl _),
    (asked.trans (onward_holdListener _ listener)).trans looked_again.onward⟩

theorem LooksTwice.returned
    (looks : LooksTwice before request index listener first second ready) :
    .returned request.address second ∈ ready.events := by
  cases looks with
  | intro look decoded subscribed again => exact returned_of_fetch again

/-- The watcher is there when the second look ends. -/
theorem LooksTwice.found
    (looks : LooksTwice before request index listener first second ready) :
    ∃ watcher, ready.watchers[index]? = some watcher ∧ watcher.request = request := by
  obtain ⟨enlisted, entered, enlists⟩ := looks.enlists
  obtain ⟨watcher, more, passage, _⟩ := enlists.onward entered enlists.found
  exact ⟨watcher, passage.found, passage.request.trans enlists.requested⟩

/-- Whatever happens after a start, the watcher's history begins as it does at the start's end. -/
theorem LooksTwice.follows (looks : LooksTwice before request index listener first second ready)
    (aimed : Aimed before) (success : before.watchAccount request = (started, .ok index))
    {now : Session α} (after : Onward index started now) :
    ready.events <+: now.events ∧
      ∃ watcher history, Follows request first second ready now index watcher history := by
  obtain ⟨_, finished⟩ := finish_ok (looks.watchAccount_eq.symm.trans success)
  obtain ⟨enlisted, entered, enlists⟩ := looks.enlists
  have seen := looks.returned
  obtain rfl : entered.request = request := enlists.requested
  obtain ⟨value, decoded, seeded⟩ := enlists.seeded
  have unheard := enlists.unheard aimed
  have born : Lived enlisted index entered [⟨.first first, .applied⟩] :=
    lived_first enlists.found decoded seeded unheard enlists.returned
  obtain ⟨midway, between, passage, unread⟩ := enlists.onward entered enlists.found
  have read : ∀ account ∈ second,
      .returned midway.request.address (some account) ∈ ready.events := by
    rintro account rfl
    rw [passage.request]
    exact seen
  obtain ⟨taken, reread, taking, named, unnoticed⟩ := passage_takeUp passage.found read
  rw [passage.request] at taking
  have logged : Onward index (ready.takeUp index entered.request second).1 started :=
    finished ▸ onward_log _ _
  obtain ⟨last, later, onward, unread_later⟩ := (logged.trans after) taken taking.found
  have whole := taking.trans onward
  obtain ⟨rest, split⟩ := whole.grown
  refine ⟨whole.grown, last, _, ((born.passage passage).passage taking).passage onward,
    (onward.request.trans taking.request).trans passage.request, fun live => ?_⟩
  -- nobody was heard before the watcher was enlisted, and the second look is no notice, so that the
  -- trace is cut where that look ended
  have before_second : between.filterMap Occurrence.notice? = heardBy index ready.events := by
    rw [passage.notices, unheard, List.nil_append]
  have since : later.filterMap Occurrence.notice? =
      heardBy index (now.events.drop ready.events.length) := by
    have heard := whole.notices
    rw [← split, heardBy_append, List.filterMap_append, unnoticed, List.nil_append] at heard
    rw [← split, List.drop_left]
    exact (List.append_cancel_left heard).symm
  have live_taken := onward.course.live live
  rw [List.map_append, List.map_append, List.map_append, named,
    passage.course.inputs_eq_notices (taking.course.live live_taken) unread, before_second,
    onward.course.inputs_eq_notices live unread_later, since]
  simp

end Session
end SlabBook

import SlabBook.Proofs.Versions

/-!
# No lost update

A watcher of an account whose stored versions carry rising slots and all decode.  It holds one of
these versions, never an older one than an account that has reached it.  So once all versions stored
since its listener was attached were delivered, in whatever order and however often, it holds the
newest one: a version stored before that was the current one when the start looked a second time.
-/

namespace SlabBook

variable {α : Type}

namespace Session

variable {s next : Session α} {index : Nat} {request : WatchRequest α} {final : List Event}

/-! ## What is assumed of the connection -/

instance (first second : Option Int) : Decidable (first < second) :=
  inferInstanceAs (Decidable (Option.lt (· < ·) first second))

/-- The accounts that listeners at an address were notified of. -/
def notified (address : Address) (events : List Event) : List Account :=
  events.filterMap fun
    | .delivered _ listener account => if listener.address = address then some account else none
    | _ => none

/-- The account's stored versions carry rising slots and all decode, and listeners are notified of
nothing else. -/
structure Faithful (request : WatchRequest α) (events : List Event) : Prop where
  slotted : ∀ version ∈ versions request.address events, version.slot ≠ none
  rising : (versions request.address events).Pairwise fun earlier later =>
    earlier.slot < later.slot
  decodes : ∀ version ∈ versions request.address events,
    (request.format.decode (version.account request.address)).isOk
  sent : ∀ account ∈ notified request.address events,
    ∃ version ∈ versions request.address events, account = version.account request.address

/-- The events since a listener was attached. -/
def sinceAttached (listener : Listener) : List Event → List Event
  | [] => []
  | event :: rest => if event = .attached listener then rest else sinceAttached listener rest

/-- Every version stored since the listener was attached has been delivered to the watcher. -/
def Settled (index : Nat) (listener : Listener) (events : List Event) : Prop :=
  ∀ version ∈ versions listener.address (sinceAttached listener events),
    version.account listener.address ∈ heardBy index events

theorem subset_sinceAttached {listener : Listener} {earlier : List Event}
    (attached : .attached listener ∈ earlier) (later : List Event) :
    later ⊆ sinceAttached listener (earlier ++ later) := by
  induction earlier with
  | nil => cases attached
  | cons event rest ih =>
    simp only [List.cons_append, sinceAttached]
    split
    · exact List.subset_append_right rest later
    · rename_i other
      exact ih ((List.mem_cons.1 attached).resolve_left (Ne.symm other))

theorem Faithful.decodes_to {version : Stored} (faithful : Faithful request final)
    (member : version ∈ versions request.address final) :
    ∃ value, request.format.decode (version.account request.address) = .ok value := by
  have decodes := faithful.decodes version member
  cases decoded : request.format.decode (version.account request.address) with
  | error cause =>
    rw [decoded] at decodes
    cases decodes
  | ok value => exact ⟨value, rfl⟩

theorem Faithful.delivered {time : Int} {listener : Listener} {account : Account}
    (faithful : Faithful request final) (told : .delivered time listener account ∈ final)
    (placed : listener.address = request.address) :
    ∃ version ∈ versions request.address final, account = version.account request.address :=
  faithful.sent account (List.mem_filterMap.2 ⟨_, told, if_pos placed⟩)

/-- No version is newer than the last one. -/
theorem eq_of_slot_le {stored : List Stored} {newest version : Stored}
    (rising : stored.Pairwise fun earlier later => earlier.slot < later.slot)
    (last : stored.getLast? = some newest) (member : version ∈ stored)
    (reached : newest.slot ≤ version.slot) : version = newest := by
  obtain ⟨earlier, rfl⟩ := List.getLast?_eq_some_iff.1 last
  rcases List.mem_append.1 member with old | same
  · have below := (List.pairwise_append.1 rising).2.2 version old newest (by simp)
    exact absurd reached (Watch.slot_not_le_of_lt below)
  · simpa using same

/-! ## What a watcher holds -/

/-- The watcher holds one of the stored versions. -/
def Mirrors (final : List Event) (watcher : Watcher α) : Prop :=
  ∃ version ∈ versions watcher.request.address final, watcher.watch.slot = version.slot ∧
    watcher.request.format.decode (version.account watcher.request.address) = .ok watcher.latest

/-- The watcher holds a stored version which, unless the watcher is disposed, is no older than any
account that it has heard of. -/
structure Tracks (final : List Event) (index : Nat) (s : Session α) (watcher : Watcher α) : Prop where
  found : s.watchers[index]? = some watcher
  mirrors : Mirrors final watcher
  heard : watcher.watch.disposed = false →
    ∀ account ∈ heardBy index s.events, account.slot ≤ watcher.watch.slot

theorem Mirrors.of_took {watcher : Watcher α} {watch : Watch (Snapshot α)} {account : Account}
    {version : Stored} (member : version ∈ versions watcher.request.address final)
    (slotted : version.slot ≠ none) (same : account = version.account watcher.request.address)
    (took : Watch.Took watcher.request.format.decode account watcher.watch watch) :
    Mirrors final { watcher with watch } := by
  refine ⟨version, member, ?_, ?_⟩
  · obtain ⟨slot, known⟩ := Option.ne_none_iff_exists'.1 slotted
    have given : account.slot = some slot := by rw [same]; exact known
    simp only [took.slot, given, known, Option.some_or]
  · rw [← same]
    exact took.decoded

theorem Tracks.of_kept {watcher after : Watcher α} (tracks : Tracks final index s watcher)
    (there : next.watchers[index]? = some after) (requested : after.request = watcher.request)
    (watch : after.watch = watcher.watch ∨ after.watch = watcher.watch.dispose)
    (silent : heardBy index next.events = heardBy index s.events) :
    Tracks final index next after where
  found := there
  mirrors := by
    obtain ⟨version, member, slot, decoded⟩ := tracks.mirrors
    refine ⟨version, by rwa [requested], ?_, ?_⟩
    · rwa [slot_of_kept watch]
    · rw [requested, decoded, latest_of_kept watch]
  heard := by
    intro live account heard
    rw [silent] at heard
    rcases watch with same | disposed
    · rw [same] at live ⊢
      exact tracks.heard live account heard
    · rw [disposed] at live
      cases live

/-- Nothing takes a watcher back to an older slot. -/
theorem Fate.slot_le {watcher after : Watcher α} (fate : Fate s next index watcher after) :
    watcher.watch.slot ≤ after.watch.slot := by
  cases fate with
  | kept requested watch silent =>
    rw [slot_of_kept watch]
    exact Watch.slot_le_refl _
  | heard version listener attached sink told => exact Watch.slot_le_notify
  | reread account returned silent => exact Watch.slot_le_catchUp

/-- One move keeps track, if its deliveries are of stored versions. -/
theorem Move.tracks {watcher after : Watcher α} (move : Move s next) (aimed : Aimed s)
    (recounts : Recounts s) (tracks : Tracks final index s watcher)
    (faithful : Faithful watcher.request final) (within : next.events ⊆ final)
    (there : next.watchers[index]? = some after) (fate : Fate s next index watcher after) :
    Tracks final index next after := by
  have seen : s.events ⊆ final := Moves.within (.single move) within
  have rises := fate.slot_le
  cases fate with
  | kept requested watch silent => exact tracks.of_kept there requested watch silent
  | heard version listener attached sink told =>
    have placed := aimed.address_eq attached sink tracks.found
    obtain ⟨stored, member, equal⟩ :=
      faithful.delivered (within (by rw [told]; exact List.mem_concat_self)) placed.symm
    obtain ⟨value, decoded⟩ := faithful.decodes_to member
    refine ⟨there, ?_, ?_⟩
    · rcases Watch.notify_fst_cases watcher.request.format.decode s.clock watcher.watch
        (version.account listener.address) with same | ⟨took, _⟩
      · rw [same]
        exact tracks.mirrors
      · exact .of_took member (faithful.slotted stored member) equal took
    · intro live account heard
      have alive : watcher.watch.disposed = false := Watch.disposed_notify.symm.trans live
      rw [told, heardBy_append, List.mem_append] at heard
      rcases heard with old | fresh
      · exact Watch.slot_le_trans (tracks.heard alive account old) rises
      · obtain rfl : account = version.account listener.address := by
          simpa [heardBy, Event.heard?, sink] using fresh
        exact Watch.account_slot_le_notify alive (equal ▸ decoded)
  | reread account returned silent =>
    obtain ⟨stored, old, equal⟩ := recounts.answered _ account returned
    have member := versions_subset seen old
    refine ⟨there, ?_, ?_⟩
    · rcases Watch.catchUp_fst_cases watcher.request.format.decode s.clock watcher.watch account
        with same | ⟨took, _⟩
      · rw [same]
        exact tracks.mirrors
      · exact .of_took member (faithful.slotted stored member) equal took
    · intro live heard_account heard
      rw [silent] at heard
      have alive : watcher.watch.disposed = false := Watch.disposed_catchUp.symm.trans live
      exact Watch.slot_le_trans (tracks.heard alive heard_account heard) rises

/-- What a run of moves keeps of a watcher that is tracked. -/
theorem Moves.tracks {watcher : Watcher α} (moves : Moves s next) (aimed : Aimed s)
    (recounts : Recounts s) (tracks : Tracks final index s watcher)
    (faithful : Faithful watcher.request final) (within : next.events ⊆ final) :
    ∃ after, Tracks final index next after ∧ after.request = watcher.request ∧
      watcher.watch.slot ≤ after.watch.slot := by
  induction moves with
  | refl => exact ⟨watcher, tracks, rfl, Watch.slot_le_refl _⟩
  | @tail between last moves move ih =>
    obtain ⟨now, tracked, requested, risen⟩ := ih (Moves.within (.single move) within)
    obtain ⟨after, there, fate⟩ := move.fate tracked.found
    have kept := move.tracks (Moves.aimed moves aimed) (Moves.recounts moves recounts) tracked
      (requested ▸ faithful) within there fate
    exact ⟨after, kept, fate.request.trans requested, Watch.slot_le_trans risen fate.slot_le⟩

/-! ## Starts -/

/-- A start attaches its listener and then looks a second time, when `current` is the version stored
last. -/
structure SecondLook (request : WatchRequest α) (index : Nat) (listener : Listener)
    (events earlier : List Event) (current : Stored) (later : List Event) : Prop where
  address : listener.address = request.address
  sink : listener.sink = .watcher index
  attached : .attached listener ∈ earlier
  last : (versions request.address earlier).getLast? = some current
  split : events =
    earlier ++ .returned request.address (some (current.account request.address)) :: later

/-- An enlisted watcher holds the version that was current at the first look. -/
theorem tracks_enlist {value : Snapshot α} {account : Account} (aimed : Aimed s)
    (recounts : Recounts s) (within : s.events ⊆ final)
    (returned : .returned request.address (some account) ∈ s.events)
    (decoded : request.format.decode account = .ok value) :
    ∃ watcher, Tracks final s.watchers.size (s.enlist request value account.slot).1 watcher ∧
      watcher.request = request := by
  obtain ⟨version, member, equal⟩ := recounts.answered request.address account returned
  refine ⟨_, ⟨enlist_found request value account.slot, ⟨version, ?_, ?_, ?_⟩, ?_⟩, rfl⟩
  · exact versions_subset within member
  · rw [equal]
    rfl
  · rw [← equal, decoded]
    rfl
  · intro live heard_account heard
    have unheard : heardBy s.watchers.size s.events = [] := aimed.unheard _ (Nat.le_refl _)
    have same : (s.enlist request value account.slot).1.events = s.events := rfl
    rw [same, unheard] at heard
    cases heard

/-- On the way from one session to another the account is looked up, and the watcher takes up what
is found. -/
structure Looks (s : Session α) (index : Nat) (request : WatchRequest α) (looking : Session α)
    (answer : Option Account) (next : Session α) : Prop where
  before : Moves s looking
  moves : Moves s next
  split : ∃ later, next.events = looking.events ++ .returned request.address answer :: later
  last : answer = none ∨ ∃ current, answer = some (current.account request.address) ∧
    (versions request.address looking.events).getLast? = some current
  tracks : ∀ final watcher account, answer = some account → next.events ⊆ final →
    Faithful request final → Tracks final index s watcher → watcher.request = request →
      ∃ after, Tracks final index next after ∧ after.request = request ∧
        account.slot ≤ after.watch.slot

theorem Looks.extend {first looking last : Session α} {answer : Option Account}
    (looks : Looks s index request looking answer next) (ahead : Moves first s)
    (behind : Moves next last) (aimed : Aimed first) (recounts : Recounts first) :
    Looks first index request looking answer last where
  before := ahead.trans looks.before
  moves := (ahead.trans looks.moves).trans behind
  split := by
    obtain ⟨later, split⟩ := looks.split
    obtain ⟨rest, grown⟩ := Moves.events_prefix behind
    exact ⟨later ++ rest, by rw [← grown, split]; simp⟩
  last := looks.last
  tracks := by
    intro final watcher account found within faithful tracks requested
    have reached : Moves first next := ahead.trans looks.moves
    have next_within : next.events ⊆ final := Moves.within behind within
    have s_within : s.events ⊆ final := Moves.within looks.moves next_within
    obtain ⟨between, tracks, same, _⟩ :=
      Moves.tracks ahead aimed recounts tracks (requested ▸ faithful) s_within
    obtain ⟨after, tracks, request, taken⟩ := looks.tracks final between account found next_within
      faithful tracks (same.trans requested)
    obtain ⟨watching, tracks, same, risen⟩ := Moves.tracks behind (Moves.aimed reached aimed)
      (Moves.recounts reached recounts) tracks (request ▸ faithful) within
    exact ⟨watching, tracks, same.trans request, Watch.slot_le_trans taken risen⟩

/-- After the reading itself the watcher is no older than the account that was read. -/
theorem looks_reread {looking answered : Session α} {version : Stored} {watcher : Watcher α}
    (before : Moves s looking)
    (held : looking.connection.find? watcher.request.address = some version)
    (answering : Moves (looking.record (.returned watcher.request.address
      (some (version.account watcher.request.address)))) answered)
    (there : answered.watchers[index]? = some watcher) (aimed : Aimed s) (recounts : Recounts s) :
    Looks s index watcher.request looking (some (version.account watcher.request.address))
      (answered.setWatcher index { watcher with
        watch := (watcher.watch.catchUp watcher.request.format.decode answered.clock
          (version.account watcher.request.address)).1 }) := by
  have last := (Moves.recounts before recounts).current _ version held
  have answer : Move looking (looking.record (.returned watcher.request.address
      (some (version.account watcher.request.address)))) :=
    .answer looking watcher.request.address _ (by rw [held, Option.map_some])
  have returned : .returned watcher.request.address
      (some (version.account watcher.request.address)) ∈ answered.events :=
    Moves.mem_events answering (by simp)
  have onward : Moves looking (answered.setWatcher index _) :=
    ((Relation.ReflTransGen.single answer).trans answering).tail
      (.reread answered index watcher _ there returned)
  obtain ⟨later, split⟩ := Moves.events_prefix answering
  refine ⟨before, before.trans onward, ⟨later, ?_⟩, .inr ⟨version, rfl, last⟩, ?_⟩
  · change answered.events = _
    rw [← split, events_record]
    simp
  · rintro final tracked account ⟨⟩ within faithful tracks requested
    have seen : looking.events ⊆ final := Moves.within onward within
    obtain ⟨value, decoded⟩ :=
      faithful.decodes_to (versions_subset seen (List.mem_of_getLast? last))
    have seated := getElem?_setWatcher answered index index { watcher with
      watch := (watcher.watch.catchUp watcher.request.format.decode answered.clock
        (version.account watcher.request.address)).1 }
    rw [if_pos rfl, if_pos (lt_size_of_found there)] at seated
    obtain ⟨taken, tracks, _, _⟩ := Moves.tracks (before.trans onward) aimed recounts tracks
      (requested ▸ faithful) within
    obtain rfl := Option.some.inj (seated.symm.trans tracks.found)
    exact ⟨_, tracks, rfl, Watch.account_slot_le_catchUp decoded⟩

theorem CaughtUp.looks (caught : CaughtUp s index request next) (aimed : Aimed s)
    (recounts : Recounts s) : ∃ looking answer, Looks s index request looking answer next := by
  have moves := caught.moves
  cases caught with
  | @missing looking _ before absent after =>
    obtain ⟨later, split⟩ := Moves.events_prefix after
    refine ⟨looking, none, before, moves, ⟨later, ?_⟩, .inl rfl, fun _ _ _ none => by cases none⟩
    rw [← split, events_record, List.append_assoc]
    rfl
  | @reread looking answered _ version watcher before held answering there same after =>
    subst same
    have looks := looks_reread before held answering there aimed recounts
    exact ⟨looking, _, looks.extend .refl after aimed recounts⟩

/-- Once it is enlisted, a watcher's listener is attached before the second look. -/
theorem Attached.looks (attached : Attached s index request next)
    (aims : s.Aims request.address (.watcher index)) (aimed : Aimed s) (recounts : Recounts s) :
    ∃ listener looking answer, listener.address = request.address ∧
      listener.sink = .watcher index ∧ .attached listener ∈ looking.events ∧
      Looks s index request looking answer next := by
  cases attached with
  | @intro asking held reread _ asked attaching caught after =>
    have listening : Move asking (asking.attachListener request.address (.watcher index)) :=
      .attach asking request.address _ (Moves.aims asked aims)
    have seated : Moves s held := (asked.tail listening).trans attaching
    obtain ⟨looking, answer, looks⟩ :=
      caught.looks (Moves.aimed seated aimed) (Moves.recounts seated recounts)
    refine ⟨⟨asking.connection.nextListener, request.address, .watcher index⟩, looking, answer,
      rfl, rfl, ?_, looks.extend seated after aimed recounts⟩
    refine Moves.mem_events (attaching.trans looks.before) ?_
    rw [events_attachListener]
    exact List.mem_concat_self

/-- A start whose lookups find something leaves a watcher that is tracked and no older than the
version that was current at its second look. -/
theorem Started.secondLook (started : Started s request index next) (aimed : Aimed s)
    (recounts : Recounts s)
    (present : .returned request.address none ∉ next.events.drop s.events.length) :
    ∃ listener earlier current later,
      SecondLook request index listener next.events earlier current later ∧
      ∀ final, next.events ⊆ final → Faithful request final →
        ∃ watcher, Tracks final index next watcher ∧ watcher.request = request ∧
          current.slot ≤ watcher.watch.slot := by
  cases started with
  | @intro looked _ value account before returned decoded fresh attached =>
  subst fresh
  have awaits := awaits_enlisted (s := looked) request value account.slot
  have entering : Move looked (looked.enlist request value account.slot).1 :=
    .enlist looked request value account returned decoded
  have aimed_looked := Moves.aimed before aimed
  have recounts_looked := Moves.recounts before recounts
  obtain ⟨listener, looking, answer, placed, sink, listening, looks⟩ := attached.looks awaits.aims
    (entering.aimed aimed_looked) (entering.recounts recounts_looked)
  obtain ⟨later, whole⟩ := looks.split
  rcases looks.last with rfl | ⟨current, rfl, last⟩
  · obtain ⟨more, earlier⟩ := Moves.events_prefix ((before.tail entering).trans looks.before)
    refine absurd ?_ present
    rw [whole, ← earlier, List.append_assoc, List.drop_left]
    simp
  · refine ⟨listener, looking.events, current, later, ⟨placed, sink, listening, last, whole⟩, ?_⟩
    intro final within faithful
    have moves : Moves looked next := .head entering looks.moves
    have seen : looked.events ⊆ final := Moves.within moves within
    obtain ⟨enlisted, tracks, requested⟩ :=
      tracks_enlist aimed_looked recounts_looked seen returned decoded
    exact looks.tracks final enlisted _ rfl within faithful tracks requested

/-! ## The newest version -/

/-- Where a start ends the watcher holds the version that was current at the second look or one
stored after it. -/
theorem Tracks.second_version {watcher : Watcher α} {listener : Listener} {earlier later : List Event}
    {current : Stored} (tracks : Tracks final index s watcher)
    (looked : SecondLook watcher.request index listener final earlier current later)
    (faithful : Faithful watcher.request final) (risen : current.slot ≤ watcher.watch.slot) :
    ∃ newer, (newer = current ∨ newer ∈ versions watcher.request.address later) ∧
      watcher.request.format.decode (newer.account watcher.request.address) =
        .ok watcher.latest := by
  obtain ⟨version, member, slot, decoded⟩ := tracks.mirrors
  have rising := faithful.rising
  rw [looked.split, versions_append] at member rising
  refine ⟨version, ?_, decoded⟩
  rcases List.mem_append.1 member with old | fresh
  · exact .inl (eq_of_slot_le (List.pairwise_append.1 rising).1 looked.last old (slot ▸ risen))
  · exact .inr fresh

/-- Once everything is settled the watcher holds the version stored last. -/
theorem Tracks.newest {watcher : Watcher α} {listener : Listener} {earlier : List Event}
    {current : Stored} (tracks : Tracks s.events index s watcher)
    (faithful : Faithful watcher.request s.events) (live : watcher.watch.disposed = false)
    (placed : listener.address = watcher.request.address)
    (attached : .attached listener ∈ earlier) (grown : earlier <+: s.events)
    (last : (versions watcher.request.address earlier).getLast? = some current)
    (risen : current.slot ≤ watcher.watch.slot) (settled : Settled index listener s.events) :
    ∃ newest, (versions watcher.request.address s.events).getLast? = some newest ∧
      watcher.request.format.decode (newest.account watcher.request.address) =
        .ok watcher.latest := by
  obtain ⟨version, member, slot, decoded⟩ := tracks.mirrors
  obtain ⟨rest, split⟩ := grown
  have whole : (versions watcher.request.address s.events).getLast? =
      (versions watcher.request.address rest).getLast?.or (some current) := by
    rw [← split, versions_append, List.getLast?_append, last]
  obtain ⟨newest, found, reached⟩ : ∃ newest,
      (versions watcher.request.address s.events).getLast? = some newest ∧
        newest.slot ≤ watcher.watch.slot := by
    cases after : (versions watcher.request.address rest).getLast? with
    | none => exact ⟨current, by rw [whole, after, Option.none_or], risen⟩
    | some newest =>
      refine ⟨newest, by rw [whole, after, Option.some_or], ?_⟩
      have since : newest ∈ versions listener.address (sinceAttached listener s.events) := by
        rw [placed, ← split]
        exact versions_subset (subset_sinceAttached attached rest) (List.mem_of_getLast? after)
      exact tracks.heard live _ (settled newest since)
  have same : version = newest := eq_of_slot_le faithful.rising found member (slot ▸ reached)
  exact ⟨newest, found, same ▸ decoded⟩

end Session

namespace Script

open Session

/-- A reading answers the decoding of a version. -/
def ShowsVersion (script : Script α) (handle : Nat) (request : WatchRequest α) (version : Stored) :
    Prop :=
  ∃ value, request.format.decode (version.account request.address) = .ok value ∧
    script.Reads handle none (.snapshot value)

theorem eventsSince_eq_drop (script : Script α) (length : Nat) :
    script.eventsSince length = script.events.drop length := by
  simp only [eventsSince, events, Session.events, Array.toList_extract, List.extract_eq_take_drop]
  exact List.take_of_length_le (by simp)

/-- A start whose lookups find the account attaches its listener and looks a second time.  If the
account is faithful, a reading at the end of the start shows the version current at that look or a
later one.  At every moment before the watcher's disposal when all versions stored since the
attachment were delivered, a reading shows the version stored last. -/
theorem watch_keeps_up {script : Script α} (reached : script.Reached) {request : WatchRequest α}
    {handle : Nat} {name : String}
    (success : (script.step (.watch request)).2 = .ok (.handle handle name))
    (present : .returned request.address none ∉
      (script.step (.watch request)).1.eventsSince script.session.trace.size) :
    ∃ index listener earlier current later,
      (script.step (.watch request)).1.source? handle = some (.watcher index) ∧
      SecondLook request index listener (script.step (.watch request)).1.events earlier current
        later ∧
      (Faithful request (script.step (.watch request)).1.events →
        ∃ newer, (newer = current ∨ newer ∈ versions request.address later) ∧
          (script.step (.watch request)).1.ShowsVersion handle request newer) ∧
      ∀ now, (script.step (.watch request)).1.Later now → Faithful request now.events →
        now.session.isDisposed index = false → Settled index listener now.events →
          ∃ newest, (versions request.address now.events).getLast? = some newest ∧
            now.ShowsVersion handle request newest := by
  obtain ⟨index, started, known⟩ := watch_started success
  have aimed : Aimed script.session := reached.invariant aimed_start fun _ _ move => move.aimed
  have recounts : Recounts script.session :=
    reached.invariant recounts_start fun _ _ move => move.recounts
  rw [eventsSince_eq_drop] at present
  obtain ⟨listener, earlier, current, later, looked, tracks⟩ :=
    started.secondLook aimed recounts (by simpa [events, Session.events] using present)
  refine ⟨index, listener, earlier, current, later, known, looked, ?_, ?_⟩
  · intro faithful
    obtain ⟨watcher, tracks, requested, risen⟩ := tracks _ (List.Subset.refl _) faithful
    subst requested
    obtain ⟨newer, place, decoded⟩ := tracks.second_version looked faithful risen
    exact ⟨newer, place, watcher.latest, decoded, reads_of_watcher known rfl tracks.found⟩
  · intro now after faithful live settled
    have moves : Moves (script.step (.watch request)).1.session now.session := after.moves
    have grown := Moves.events_prefix moves
    obtain ⟨seated, tracked, requested, risen⟩ := tracks _ grown.subset faithful
    obtain ⟨watcher, holds, same, onward⟩ := Moves.tracks moves
      (Moves.aimed started.moves aimed) (Moves.recounts started.moves recounts) tracked
      (requested ▸ faithful) (List.Subset.refl _)
    have request_eq : watcher.request = request := same.trans requested
    subst request_eq
    have undisposed : watcher.watch.disposed = false := by
      simpa only [Session.isDisposed, holds.found, Option.map_some, Option.getD_some] using live
    have before : earlier <+: now.session.events :=
      (looked.split ▸ List.prefix_append earlier _).trans grown
    obtain ⟨newest, last, decoded⟩ := holds.newest faithful undisposed looked.address
      looked.attached before looked.last (Watch.slot_le_trans risen onward) settled
    exact ⟨newest, last, watcher.latest, decoded,
      reads_of_watcher (after.source? known) rfl holds.found⟩

/-- A version of an account of one byte. -/
def oneByte (byte : UInt8) : Stored := ⟨#[byte], some byte.toNat⟩

def oneByteRequest : WatchRequest UInt8 := ⟨"late", .fill 1, .own firstByte, {}⟩

/-- The second version will be stored after the first look and never notified, and the third one
stored and notified while the second look is under way. -/
def lateVersions : Script UInt8 :=
  (start (.start 0 1000 .confirmed) []).run
    [.change (.store (.fill 1) (oneByte 1)),
      .plan .fetch { after := [.store (.fill 1) (oneByte 2)] },
      .plan .fetch { after := [.publish (.fill 1) (oneByte 3)] }]

/-- A fourth version is stored and notified twice, and an old notification comes between. -/
def lateNotices : List (Step UInt8) :=
  [.change (.store (.fill 1) (oneByte 4)), .change (.announce (.fill 1) (oneByte 4)),
    .change (.announce (.fill 1) (oneByte 2)), .change (.announce (.fill 1) (oneByte 4))]

theorem lateVersions_faithful :
    Faithful oneByteRequest (lateVersions.step (.watch oneByteRequest)).1.events where
  slotted := by decide +kernel
  rising := by decide +kernel
  decodes := by decide +kernel
  sent := by decide +kernel

theorem lateNotices_faithful :
    Faithful oneByteRequest
      ((lateVersions.step (.watch oneByteRequest)).1.run lateNotices).events where
  slotted := by decide +kernel
  rising := by decide +kernel
  decodes := by decide +kernel
  sent := by decide +kernel

/-- Only one listener is attached. -/
theorem lateVersions_attached :
    ∀ event ∈ (lateVersions.step (.watch oneByteRequest)).1.events, ∀ listener,
      event = .attached listener → listener = ⟨1, .fill 1, .watcher 0⟩ := by
  have only : (lateVersions.step (.watch oneByteRequest)).1.events.filterMap Event.attached? =
      [⟨1, .fill 1, .watcher 0⟩] := by
    decide +kernel
  rintro event member listener rfl
  have attached : listener ∈
      (lateVersions.step (.watch oneByteRequest)).1.events.filterMap Event.attached? :=
    List.mem_filterMap.2 ⟨_, member, rfl⟩
  rw [only] at attached
  exact List.mem_singleton.1 attached

/-- The start ends with a reading of a stored version, and once all is notified the fourth version
is read. -/
theorem watch_keeps_up_lateVersions :
    (∃ newer, (lateVersions.step (.watch oneByteRequest)).1.ShowsVersion 0 oneByteRequest newer) ∧
      ((lateVersions.step (.watch oneByteRequest)).1.run lateNotices).ShowsVersion 0 oneByteRequest
        (oneByte 4) := by
  have reached : lateVersions.Reached := ⟨0, 1000, .confirmed, [], _, rfl⟩
  have success : (lateVersions.step (.watch oneByteRequest)).2 = .ok (.handle 0 "late") :=
    opened?_eq_some_iff.1 (by decide +kernel)
  obtain ⟨index, listener, earlier, current, later, known, looked, resolved, settles⟩ :=
    watch_keeps_up reached success (by decide +kernel)
  have member : .attached listener ∈ (lateVersions.step (.watch oneByteRequest)).1.events := by
    rw [looked.split]
    exact List.mem_append_left _ looked.attached
  obtain rfl : listener = ⟨1, .fill 1, .watcher 0⟩ :=
    lateVersions_attached _ member listener rfl
  obtain rfl : 0 = index := Sink.watcher.inj looked.sink
  constructor
  · obtain ⟨newer, _, shown⟩ := resolved lateVersions_faithful
    exact ⟨newer, shown⟩
  · obtain ⟨newest, last, shown⟩ := settles _ (.of_run _ lateNotices) lateNotices_faithful
      (by decide +kernel) (by unfold Settled; decide +kernel)
    have fourth : (versions oneByteRequest.address
        ((lateVersions.step (.watch oneByteRequest)).1.run lateNotices).events).getLast? =
          some (oneByte 4) := by
      decide +kernel
    rw [fourth] at last
    cases last
    exact shown

end Script
end SlabBook

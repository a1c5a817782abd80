import SlabBook.Proofs.WatchedFeeds

/-!
# The feeds that a script registers itself

Feeds that belong to no watcher are changed by the calls of the script that registered them, and by
nothing else.  One that was not dropped is in the registry, where its last sign of life is its last
ping, or its registration if there was none.

* `Liveness.HoldsFeeds` — feeds by number and what the registry holds of them, with a lemma for each
  call;
* `Script.holdsOwnFeeds_run` — what a whole run leaves of the feeds of a script.
-/

namespace SlabBook

variable {α : Type}

/-- The time of the last ping, or else of the registration. -/
def Feed.lastSign (feed : Feed) : Int := feed.lastActiveAt.getD feed.registeredAt

namespace Liveness

variable {registry next : Liveness} {feeds : List Nat} {alive : Nat → Int → Prop}
  {dropped : Nat → Prop}

theorem getElem?_concat_cases {list : List Nat} {last found position : Nat}
    (there : (list ++ [last])[position]? = some found) :
    list[position]? = some found ∨ (position = list.length ∧ found = last) := by
  rcases Nat.lt_or_ge position list.length with inside | outside
  · exact .inl (by rwa [List.getElem?_append_left inside] at there)
  · rw [List.getElem?_append_right outside, List.getElem?_singleton] at there
    split at there
    · exact .inr ⟨by omega, (Option.some.inj there).symm⟩
    · cases there

/-- A registry and feeds of it by number.  Each of them is there with its last sign of life, unless it
was dropped. -/
structure HoldsFeeds (feeds : List Nat) (registry : Liveness) (alive : Nat → Int → Prop)
    (dropped : Nat → Prop) : Prop where
  given : ∀ id ∈ feeds, id < registry.nextId
  nodup : feeds.Nodup
  lived : ∀ feed, feed < feeds.length → ∃ time, alive feed time
  known : ∀ feed time, alive feed time → feed < feeds.length
  droppable : ∀ feed, dropped feed → feed < feeds.length
  kept : ∀ feed id time, feeds[feed]? = some id → alive feed time → ¬ dropped feed →
    ∃ record, registry.feed? id = some record ∧ record.lastSign = time
  gone : ∀ feed id, feeds[feed]? = some id → dropped feed → registry.feed? id = none

namespace HoldsFeeds

theorem empty (allowed : Int) : HoldsFeeds [] (.empty allowed) (fun _ _ => False) fun _ => False where
  given := nofun
  nodup := .nil
  lived := nofun
  known := nofun
  droppable := nofun
  kept := nofun
  gone := nofun

theorem congr {lives : Nat → Int → Prop} {falls : Nat → Prop}
    (holds : HoldsFeeds feeds registry alive dropped)
    (alive_iff : ∀ feed time, lives feed time ↔ alive feed time)
    (dropped_iff : ∀ feed, falls feed ↔ dropped feed) : HoldsFeeds feeds registry lives falls := by
  obtain rfl : lives = alive := funext₂ fun feed time => propext (alive_iff feed time)
  obtain rfl : falls = dropped := funext fun feed => propext (dropped_iff feed)
  exact holds

/-- Calls about other feeds. -/
theorem quiet (holds : HoldsFeeds feeds registry alive dropped) (grown : registry.nextId ≤ next.nextId)
    (same : ∀ id ∈ feeds, next.feed? id = registry.feed? id) :
    HoldsFeeds feeds next alive dropped :=
  { holds with
    given := fun id mine => Nat.lt_of_lt_of_le (holds.given id mine) grown
    kept := by
      intro feed id time mine living kept
      rw [same id (List.mem_of_getElem? mine)]
      exact holds.kept feed id time mine living kept
    gone := by
      intro feed id mine falling
      rw [same id (List.mem_of_getElem? mine)]
      exact holds.gone feed id mine falling }

theorem register (holds : HoldsFeeds feeds registry alive dropped)
    (fresh : registry.feed? registry.nextId = none) (name : String) (now : Int) :
    HoldsFeeds (feeds ++ [registry.nextId]) (registry.register name now)
      (fun feed time => (feed = feeds.length ∧ time = now) ∨ alive feed time) dropped := by
  have old {feed id : Nat} (mine : feeds[feed]? = some id) :
      (registry.register name now).feed? id = registry.feed? id :=
    feed?_call_of_ne (.register name now)
      (Nat.ne_of_lt (holds.given id (List.mem_of_getElem? mine)))
  have newest : (registry.register name now).feed? registry.nextId =
      some ⟨registry.nextId, name, now, none⟩ := by
    rw [feed?_register, fresh, Option.none_or, if_pos rfl]
  refine ⟨?_, ?_, ?_, ?_, ?_, ?_, ?_⟩
  · intro id mine
    rcases List.mem_append.1 mine with before | last
    · exact Nat.lt_succ_of_lt (holds.given id before)
    · obtain rfl := List.mem_singleton.1 last
      exact Nat.lt_succ_self _
  · refine List.nodup_append.2 ⟨holds.nodup, List.nodup_singleton _, ?_⟩
    rintro id mine other last rfl
    exact Nat.ne_of_lt (holds.given id mine) (List.mem_singleton.1 last)
  · intro feed inside
    rw [List.length_append, List.length_singleton] at inside
    rcases Nat.lt_succ_iff_lt_or_eq.1 inside with before | last
    · obtain ⟨time, living⟩ := holds.lived feed before
      exact ⟨time, .inr living⟩
    · exact ⟨now, .inl ⟨last, rfl⟩⟩
  · rintro feed time (⟨rfl, _⟩ | living)
    · simp
    · exact Nat.lt_of_lt_of_le (holds.known feed time living) (by simp)
  · exact fun feed falling => Nat.lt_of_lt_of_le (holds.droppable feed falling) (by simp)
  · intro feed id time mine living kept
    rcases getElem?_concat_cases mine with before | ⟨rfl, rfl⟩
    · rcases living with ⟨rfl, _⟩ | living
      · simp at before
      · rw [old before]
        exact holds.kept feed id time before living kept
    · rcases living with ⟨_, rfl⟩ | living
      · exact ⟨_, newest, rfl⟩
      · exact absurd (holds.known _ time living) (Nat.lt_irrefl _)
  · intro feed id mine falling
    rcases getElem?_concat_cases mine with before | ⟨rfl, rfl⟩
    · rw [old before]
      exact holds.gone feed id before falling
    · exact absurd (holds.droppable _ falling) (Nat.lt_irrefl _)

/-- Feeds of different numbers have different ids. -/
theorem feed_eq (holds : HoldsFeeds feeds registry alive dropped) {first second id : Nat}
    (mine : feeds[first]? = some id) (mine_too : feeds[second]? = some id) : first = second :=
  (List.getElem?_inj (List.getElem?_eq_some_iff.1 mine).1 holds.nodup).1 (mine.trans mine_too.symm)

theorem ping (holds : HoldsFeeds feeds registry alive dropped) {pinged id : Nat}
    (mine : feeds[pinged]? = some id) (now : Int) :
    HoldsFeeds feeds (registry.ping id now)
      (fun feed time => (feed = pinged ∧ time = now) ∨ (alive feed time ∧ feed ≠ pinged))
      dropped := by
  have other {feed queried : Nat} (hers : feeds[feed]? = some queried) (different : feed ≠ pinged) :
      (registry.ping id now).feed? queried = registry.feed? queried :=
    feed?_call_of_ne (.ping id now) fun same => different (holds.feed_eq hers (same ▸ mine))
  have inside : pinged < feeds.length := (List.getElem?_eq_some_iff.1 mine).1
  refine ⟨holds.given, holds.nodup, ?_, ?_, holds.droppable, ?_, ?_⟩
  · intro feed inside
    by_cases same : feed = pinged
    · exact ⟨now, .inl ⟨same, rfl⟩⟩
    · obtain ⟨time, living⟩ := holds.lived feed inside
      exact ⟨time, .inr ⟨living, same⟩⟩
  · rintro feed time (⟨rfl, _⟩ | ⟨living, _⟩)
    · exact inside
    · exact holds.known feed time living
  · rintro feed queried time hers (⟨rfl, rfl⟩ | ⟨living, different⟩) kept
    · obtain rfl := Option.some.inj (mine.symm.trans hers)
      obtain ⟨before, living⟩ := holds.lived feed inside
      obtain ⟨record, found, _⟩ := holds.kept feed id before mine living kept
      refine ⟨{ record with lastActiveAt := some time }, ?_, rfl⟩
      rw [feed?_ping, found, Option.map_some, if_pos (id_of_feed? found)]
    · rw [other hers different]
      exact holds.kept feed queried time hers living kept
  · intro feed queried hers falling
    have gone := holds.gone feed queried hers falling
    rw [feed?_ping, gone, Option.map_none]

theorem drop (holds : HoldsFeeds feeds registry alive dropped) {lost id : Nat}
    (mine : feeds[lost]? = some id) :
    HoldsFeeds feeds (registry.drop id) alive fun feed => feed = lost ∨ dropped feed :=
  { holds with
    droppable := by
      rintro feed (rfl | falling)
      · exact (List.getElem?_eq_some_iff.1 mine).1
      · exact holds.droppable feed falling
    kept := by
      intro feed queried time hers living kept
      rw [not_or] at kept
      have different : queried ≠ id := fun same => kept.1 (holds.feed_eq hers (same ▸ mine))
      have same : (registry.drop id).feed? queried = registry.feed? queried :=
        feed?_call_of_ne (.drop id) different
      rw [same]
      exact holds.kept feed queried time hers living kept.2
    gone := by
      intro feed queried hers falling
      rw [feed?_drop]
      split
      · rfl
      · rename_i different
        rcases falling with rfl | falling
        · exact absurd (Option.some.inj (mine.symm.trans hers)) different
        · exact holds.gone feed queried hers falling }

end HoldsFeeds
end Liveness

namespace Script

open Session

variable {script : Script α} {steps : List (Step α)} {step : Step α} {started disposed : Nat → Prop}

/-- The step registers the script's feed of that number, or pings it. -/
def SignOfLife (script : Script α) (step : Step α) (feed : Nat) : Prop :=
  (feed = script.feeds.size ∧ ∃ name, step = .register name) ∨
    (feed < script.feeds.size ∧ step = .ping feed)

/-- The clock showed this time when the feed was last pinged, or when it was registered if it was
never pinged since. -/
def LastAlive (script : Script α) (steps : List (Step α)) (feed : Nat) (time : Int) : Prop :=
  ∃ earlier step later, steps = earlier ++ step :: later ∧
    (script.run earlier).SignOfLife step feed ∧ (script.run earlier).session.clock = time ∧
    .ping feed ∉ later

/-- The feed was dropped. -/
def Dropped (script : Script α) (steps : List (Step α)) (feed : Nat) : Prop :=
  script.Sometime steps fun before step => feed < before.feeds.size ∧ step = .dropFeed feed

theorem lastAlive_concat (script : Script α) (steps : List (Step α)) (step : Step α) (feed : Nat)
    (time : Int) :
    script.LastAlive (steps ++ [step]) feed time ↔
      ((script.run steps).SignOfLife step feed ∧ (script.run steps).session.clock = time) ∨
        (script.LastAlive steps feed time ∧ step ≠ .ping feed) := by
  constructor
  · rintro ⟨earlier, one, later, cut, living, shown, silent⟩
    rcases Watch.cut_concat cut with ⟨rfl, rfl⟩ | ⟨rest, rfl⟩
    · exact .inl ⟨living, shown⟩
    · obtain rfl : rest ++ [step] = later := by simpa using cut
      rw [List.mem_append, not_or, List.mem_singleton] at silent
      exact .inr ⟨⟨earlier, one, rest, rfl, living, shown, silent.1⟩, Ne.symm silent.2⟩
  · rintro (⟨living, shown⟩ | ⟨⟨earlier, one, later, rfl, living, shown, silent⟩, other⟩)
    · exact ⟨steps, step, [], rfl, living, shown, List.not_mem_nil⟩
    · refine ⟨earlier, one, later ++ [step], by simp, living, shown, ?_⟩
      rw [List.mem_append, not_or, List.mem_singleton]
      exact ⟨silent, Ne.symm other⟩

/-- The registry has the script's own feeds. -/
def HoldsOwnFeeds (script : Script α) (alive : Nat → Int → Prop) (dropped : Nat → Prop) : Prop :=
  Liveness.HoldsFeeds script.feeds.toList script.session.liveness alive dropped

/-! ## One step -/

/-- What holds of the script's feeds after a step, given what the step does to them. -/
def StepHoldsOwnFeeds (script : Script α) (step : Step α) (alive : Nat → Int → Prop)
    (dropped : Nat → Prop) : Prop :=
  (script.step step).1.HoldsOwnFeeds
    (fun feed time => (script.SignOfLife step feed ∧ script.session.clock = time) ∨
      (alive feed time ∧ step ≠ .ping feed))
    fun feed => dropped feed ∨ (feed < script.feeds.size ∧ step = .dropFeed feed)

variable {alive : Nat → Int → Prop} {dropped : Nat → Prop}

theorem feeds_withDisposed (handle : Nat) (part : Option Part) :
    (script.withDisposed handle part).feeds = script.feeds := by
  unfold withDisposed
  split <;> rfl

/-- Disposals leave the script's own feeds. -/
theorem feeds_dispose (handle : Nat) (part : Option Part) :
    (script.dispose handle part).1.feeds = script.feeds ∧
      (script.startDisposal handle part).feeds = script.feeds ∧
      (script.finishDisposal handle part).feeds = script.feeds := by
  have marked := @feeds_withDisposed _ script handle part
  unfold dispose startDisposal finishDisposal
  split
  · exact ⟨rfl, rfl, rfl⟩
  · exact ⟨marked, marked, rfl⟩

theorem feeds_step (inner : step.callsRegistry = false) :
    (script.step step).1.feeds = script.feeds := by
  cases step with
  | subscribe address =>
    simp only [Script.step, Script.subscribe]
    split <;> rfl
  | unsubscribe subscription =>
    simp only [Script.step]
    split <;> rfl
  | load address market capacity =>
    simp only [Script.step, Script.load]
    split <;> rfl
  | watch request =>
    simp only [Script.step, Script.watch]
    split <;> rfl
  | watchBook request =>
    simp only [Script.step, Script.watchBook]
    split <;> rfl
  | latest handle part =>
    simp only [Script.step]
    split <;> rfl
  | dispose handle part => exact (feeds_dispose handle part).1
  | startDisposal handle part => exact (feeds_dispose handle part).2.1
  | finishDisposal handle part => exact (feeds_dispose handle part).2.2
  | register | ping | dropFeed => cases inner
  | _ => rfl

theorem stepHoldsOwnFeeds_inner (holds : script.HoldsOwnFeeds alive dropped)
    (kept : script.Keeps started disposed) (aimed : Aimed script.session) (inner : step.callsRegistry = false) :
    script.StepHoldsOwnFeeds step alive dropped := by
  have transitions := transitions_step aimed inner
  obtain ⟨calls, made⟩ := transitions.evolution.calls
  have grown : script.session.liveness.nextId ≤ (script.step step).1.session.liveness.nextId := by
    rw [made]
    exact Liveness.nextId_le_after calls
  have quiet := Liveness.HoldsFeeds.quiet holds grown fun id mine =>
    transitions.feed?_of_own kept.sound.feeds mine
  unfold StepHoldsOwnFeeds HoldsOwnFeeds
  rw [feeds_step inner]
  refine quiet.congr (fun feed time => ?_) fun feed => ?_
  · cases step with
    | register | ping | dropFeed => cases inner
    | _ => simp [SignOfLife]
  · cases step with
    | register | ping | dropFeed => cases inner
    | _ => simp

theorem getElem?_toList {feed id : Nat} (mine : script.feeds[feed]? = some id) :
    script.feeds.toList[feed]? = some id := by
  rwa [Array.getElem?_toList]

theorem stepHoldsOwnFeeds_ping (holds : script.HoldsOwnFeeds alive dropped) (feed : Nat) :
    script.StepHoldsOwnFeeds (.ping feed) alive dropped := by
  simp only [StepHoldsOwnFeeds, Script.step]
  cases mine : script.feeds[feed]? with
  | none =>
    have outside : script.feeds.size ≤ feed := Array.getElem?_eq_none_iff.1 mine
    refine Liveness.HoldsFeeds.congr holds (fun queried time => ?_) (by simp)
    constructor
    · rintro (⟨⟨_, _, other⟩ | ⟨inside, same⟩, _⟩ | ⟨living, _⟩)
      · cases other
      · cases same
        exact absurd inside (Nat.not_lt.2 outside)
      · exact living
    · intro living
      refine .inr ⟨living, ?_⟩
      rintro ⟨⟩
      exact absurd (holds.known _ time living) (Nat.not_lt.2 outside)
  | some id =>
    have inside : feed < script.feeds.size := (Array.getElem?_eq_some_iff.1 mine).1
    refine Liveness.HoldsFeeds.congr (Liveness.HoldsFeeds.ping holds (getElem?_toList mine) _)
      (fun queried time => ?_) (by simp)
    simp only [SignOfLife, reduceCtorEq, exists_false, and_false, false_or, Step.ping.injEq, ne_eq]
    constructor
    · rintro (⟨⟨_, rfl⟩, rfl⟩ | ⟨living, different⟩)
      · exact .inl ⟨rfl, rfl⟩
      · exact .inr ⟨living, Ne.symm different⟩
    · rintro (⟨rfl, rfl⟩ | ⟨living, different⟩)
      · exact .inl ⟨⟨inside, rfl⟩, rfl⟩
      · exact .inr ⟨living, Ne.symm different⟩

theorem stepHoldsOwnFeeds_dropFeed (holds : script.HoldsOwnFeeds alive dropped) (feed : Nat) :
    script.StepHoldsOwnFeeds (.dropFeed feed) alive dropped := by
  simp only [StepHoldsOwnFeeds, Script.step]
  cases mine : script.feeds[feed]? with
  | none =>
    have outside : script.feeds.size ≤ feed := Array.getElem?_eq_none_iff.1 mine
    refine Liveness.HoldsFeeds.congr holds (by simp [SignOfLife]) fun queried => ?_
    refine or_iff_left ?_
    rintro ⟨inside, same⟩
    cases same
    exact absurd inside (Nat.not_lt.2 outside)
  | some id =>
    have inside : feed < script.feeds.size := (Array.getElem?_eq_some_iff.1 mine).1
    refine Liveness.HoldsFeeds.congr (Liveness.HoldsFeeds.drop holds (getElem?_toList mine))
      (by simp [SignOfLife]) fun queried => ?_
    rw [or_comm]
    refine or_congr_left ⟨?_, ?_⟩
    · rintro ⟨_, same⟩
      cases same
      rfl
    · rintro rfl
      exact ⟨inside, rfl⟩

/-- What one step leaves of the script's feeds. -/
theorem holdsOwnFeeds_step (holds : script.HoldsOwnFeeds alive dropped)
    (kept : script.Keeps started disposed) (aimed : Aimed script.session) (step : Step α) : script.StepHoldsOwnFeeds step alive dropped := by
  cases calls : step.callsRegistry with
  | false => exact stepHoldsOwnFeeds_inner holds kept aimed calls
  | true =>
    cases step with
    | register name =>
      have fresh := FeedsSound.fresh kept.sound.feeds
      have registered := Liveness.HoldsFeeds.register holds fresh name script.session.clock
      simp only [StepHoldsOwnFeeds, HoldsOwnFeeds, Script.step, Array.toList_push]
      refine registered.congr (fun feed time => ?_) (by simp)
      simp [SignOfLife, eq_comm]
    | ping feed => exact stepHoldsOwnFeeds_ping holds feed
    | dropFeed feed => exact stepHoldsOwnFeeds_dropFeed holds feed
    | _ => cases calls

/-! ## A whole run -/

/-- What a whole run leaves of the script's feeds. -/
theorem holdsOwnFeeds_run {clock allowedSilence : Int} {commitment : Commitment} {origins : List String}
    (begun : script = start (.start clock allowedSilence commitment) origins)
    (steps : List (Step α)) :
    (script.run steps).HoldsOwnFeeds (script.LastAlive steps) (script.Dropped steps) := by
  -- from the end, since the last sign of life is that of the last step that gave one
  induction steps using List.reverseRecOn with
  | nil =>
    subst begun
    refine Liveness.HoldsFeeds.congr (.empty allowedSilence) (fun feed time => ?_) fun feed => ?_
    · refine iff_of_false ?_ id
      rintro ⟨earlier, one, later, none, _⟩
      simp at none
    · exact iff_of_false (sometime_nil _ _) id
  | append_singleton steps step ih =>
    rw [run_concat]
    have holds := holdsOwnFeeds_step ih (keeps_begun begun steps) (reached_begun begun steps).aimed step
    exact Liveness.HoldsFeeds.congr holds (lastAlive_concat script steps step) fun _ =>
      sometime_concat ..

end Script
end SlabBook

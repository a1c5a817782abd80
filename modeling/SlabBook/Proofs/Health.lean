import SlabBook.Proofs.OwnFeeds
import SlabBook.Proofs.Requests

/-!
# Health

Health is good if nothing that is watched has been silent for too long: no watcher that was started
with the registry and not disposed, counted from what was last delivered to it, or from its enlisting,
and no feed that a script registered itself and did not drop, counted from its last ping, or from its
registration.  Nothing else counts: no reading, no start that failed, and no disposed watcher.

* `Script.existsUnique_enlistedAt` — when a watcher was enlisted;
* `Script.ok_iff_livelyAt` — what a report comes to, at any moment;
* `Script.health_tells` — what the server answers.
-/

namespace SlabBook

variable {α : Type}

/-- The silence since a time is no longer than allowed.  A clock that ran back counts as no
silence. -/
def Recent (allowed now since : Int) : Prop := max 0 (Clock.between since now) ≤ allowed

theorem Liveness.ok_iff_recent (registry : Liveness) (now : Int) :
    (registry.report now).ok = true ↔
      ∀ feed ∈ registry.feeds, Recent registry.allowedSilence now feed.lastSign := by
  simp [report, Feed.status, Recent, Feed.lastSign]

/-! ## Requests for the health -/

namespace Http

/-- The request asks for the health of the feeds, and its origin can be written in a header. -/
structure AsksHealth (request : Request) : Prop where
  method : request.method = "GET"
  named : request.url ≠ ""
  resource : (Target.ofText? request.url).bind (·.resource) = some "api/v1/health"
  origin : (request.header? "origin").all Header.isValue

/-- Good health is served with 200 and bad health with 503. -/
theorem AsksHealth.respond {request : Request} (asks : AsksHealth request) (server : Server) :
    ∃ response, server.respond request = .ok response ∧
      response.status = (if server.report.ok then 200 else 503) ∧
      response.body = .health server.report := by
  obtain ⟨target, read, resource⟩ := Option.bind_eq_some_iff.1 asks.resource
  have gets : Gets request "api/v1/health" target.query :=
    ⟨asks.method, asks.named, ⟨target, read, resource, rfl⟩, asks.origin⟩
  have served : server.read? "api/v1/health" target.query = some server.health := by
    simp [Server.read?]
  exact ⟨_, gets.respond served rfl, rfl, rfl⟩

end Http

namespace Script

open Session

variable {script : Script α} {steps : List (Step α)} {step : Step α} {started disposed : Nat → Prop}

/-- At a moment that comes after the steps, every watcher that is there with the registry and not
disposed has heard of something recently, or was enlisted recently, and every feed of the script that
it did not drop was alive recently. -/
structure LivelyAt (script : Script α) (steps : List (Step α)) (allowed : Int) (moment : Session α) :
    Prop where
  watchers : ∀ index (watcher : Watcher α) since, moment.watchers[index]? = some watcher →
    watcher.watch.disposed = false → watcher.request.options.liveness = true →
    EnlistedAt script.session index since moment →
      Recent allowed moment.clock ((moment.lastHeard index).getD since)
  feeds : ∀ feed time, script.LastAlive steps feed time → ¬ script.Dropped steps feed →
    Recent allowed moment.clock time

/-- After the steps, every watcher that was started with the registry and not disposed has heard of
something recently, or was enlisted recently, and every feed of the script that it did not drop was
alive recently. -/
structure Lively (script : Script α) (steps : List (Step α)) (allowed : Int) : Prop where
  watchers : ∀ index since (watcher : Watcher α), script.Started steps index →
    ¬ script.Disposed steps index → (script.run steps).session.watchers[index]? = some watcher →
    watcher.request.options.liveness = true →
    EnlistedAt script.session index since (script.run steps).session →
      Recent allowed (script.run steps).session.clock
        (((script.run steps).session.lastHeard index).getD since)
  feeds : ∀ feed time, script.LastAlive steps feed time → ¬ script.Dropped steps feed →
    Recent allowed (script.run steps).session.clock time

section Moments

variable {clock allowed : Int} {commitment : Commitment} {origins : List String} {moment : Session α}

/-- All that a start comes to evolves from it. -/
theorem evolution_begun (begun : script = start (.start clock allowed commitment) origins)
    (transitions : Transitions (script.run steps).session moment) :
    Evolution script.session moment := by
  subst begun
  exact (evolution_run (keeps_start clock allowed commitment origins)
    (aimed_start clock allowed commitment) steps).trans transitions.evolution

/-- What the feed of a watcher that is not disposed says at any moment. -/
theorem registered_begun (begun : script = start (.start clock allowed commitment) origins)
    {index : Nat} {watcher : Watcher α} {since : Int}
    (found : moment.watchers[index]? = some watcher)
    (enlisted : EnlistedAt script.session index since moment) :
    Registered moment index watcher since := by
  subst begun
  exact enlisted.registered (feedsSound_start clock allowed commitment)
    (aimed_start clock allowed commitment) found

theorem exists_enlistedAt_begun (begun : script = start (.start clock allowed commitment) origins)
    (transitions : Transitions (script.run steps).session moment) {index : Nat}
    {watcher : Watcher α} (found : moment.watchers[index]? = some watcher) :
    ∃ since, EnlistedAt script.session index since moment := by
  have evolution := evolution_begun begun transitions
  subst begun
  exact exists_enlistedAt evolution rfl found

theorem feedsSound_begun (begun : script = start (.start clock allowed commitment) origins)
    (transitions : Transitions (script.run steps).session moment) :
    moment.FeedsSound (script.run steps).feeds.toList :=
  transitions.feedsSound (keeps_begun begun steps).sound.feeds

/-- A watcher that was given the registry and is not disposed has a feed in it. -/
theorem exists_feed_begun (begun : script = start (.start clock allowed commitment) origins)
    (transitions : Transitions (script.run steps).session moment) {index : Nat}
    {watcher : Watcher α} (found : moment.watchers[index]? = some watcher)
    (given : watcher.request.options.liveness = true) : ∃ id, watcher.feed = some id :=
  have leases := (feedsSound_begun begun transitions).leases index _ (custody_tenure found)
  Option.isSome_iff_exists.1 (leases.registers.trans given)

/-- There is one time at which such a watcher was enlisted. -/
theorem existsUnique_enlistedAt (begun : script = start (.start clock allowed commitment) origins)
    (transitions : Transitions (script.run steps).session moment) {index : Nat}
    {watcher : Watcher α} (found : moment.watchers[index]? = some watcher)
    (live : watcher.watch.disposed = false) (given : watcher.request.options.liveness = true) :
    ∃! since, EnlistedAt script.session index since moment := by
  obtain ⟨id, feed⟩ := exists_feed_begun begun transitions found given
  obtain ⟨since, enlisted⟩ := exists_enlistedAt_begun begun transitions found
  refine ⟨since, enlisted, fun other enlisted_too => ?_⟩
  have known := registered_begun begun found enlisted live id feed
  rw [registered_begun begun found enlisted_too live id feed] at known
  exact congrArg Feed.registeredAt (Option.some.inj known)

theorem allowedSilence_begun (begun : script = start (.start clock allowed commitment) origins)
    (transitions : Transitions (script.run steps).session moment) :
    moment.liveness.allowedSilence = allowed := by
  obtain ⟨calls, made⟩ := (evolution_begun begun transitions).calls
  subst begun
  rw [made, Liveness.allowedSilence_after]
  rfl

/-- A report is good if all that is watched is lively, at any moment. -/
theorem ok_iff_livelyAt (begun : script = start (.start clock allowed commitment) origins)
    (transitions : Transitions (script.run steps).session moment) :
    (moment.liveness.report moment.clock).ok = true ↔ script.LivelyAt steps allowed moment := by
  have kept := keeps_begun begun steps
  have holds := holdsOwnFeeds_run begun steps
  have sound := feedsSound_begun begun transitions
  have own {id : Nat} (mine : id ∈ (script.run steps).feeds.toList) :=
    transitions.feed?_of_own kept.sound.feeds mine
  rw [Liveness.ok_iff_recent, allowedSilence_begun begun transitions]
  constructor
  · intro recent
    constructor
    · intro index watcher since found live given enlisted
      obtain ⟨id, feed⟩ := exists_feed_begun begun transitions found given
      have known := registered_begun begun found enlisted live id feed
      have due := recent _ (List.mem_of_find?_eq_some known)
      exact due
    · intro feed time living kept_feed
      have inside := holds.known feed time living
      obtain ⟨record, found, rfl⟩ :=
        holds.kept feed _ time (List.getElem?_eq_getElem inside) living kept_feed
      rw [← own (List.getElem_mem inside)] at found
      exact recent record (List.mem_of_find?_eq_some found)
  · intro lively record member
    have distinct : (moment.liveness.feeds.map (·.id)).Nodup := by
      have ids := sound.ids
      rwa [show moment.custody.feeds = moment.liveness.entries from rfl, Liveness.entries,
        List.map_map] at ids
    have known := Liveness.feed?_of_mem distinct member
    rcases sound.taken _ (mem_entries_of_feed? known) with
      mine | ⟨index, held, there, live, feed, _⟩
    · obtain ⟨number, mine_at⟩ := List.getElem?_of_mem mine
      obtain ⟨time, living⟩ := holds.lived number (List.getElem?_eq_some_iff.1 mine_at).1
      rw [own mine] at known
      have stays : ¬ script.Dropped steps number := by
        intro falling
        rw [holds.gone number _ mine_at falling] at known
        cases known
      obtain ⟨same, found, rfl⟩ := holds.kept number _ time mine_at living stays
      obtain rfl := Option.some.inj (found.symm.trans known)
      exact lively.feeds number _ living stays
    · obtain ⟨watcher, found, rfl⟩ := tenure_eq_some_iff.1 there
      obtain ⟨since, enlisted⟩ := exists_enlistedAt_begun begun transitions found
      have registered := registered_begun begun found enlisted live record.id feed
      have same := Option.some.inj (known.symm.trans registered)
      have leases := sound.leases index _ there
      have given : watcher.request.options.liveness = true :=
        leases.registers.symm.trans (by rw [feed]; rfl)
      rw [same]
      exact lively.watchers index watcher since found live given enlisted

/-- Between the steps the watchers that are there are those that were started and not disposed. -/
theorem livelyAt_iff (begun : script = start (.start clock allowed commitment) origins)
    (steps : List (Step α)) :
    script.LivelyAt steps allowed (script.run steps).session ↔ script.Lively steps allowed := by
  have kept := keeps_begun begun steps
  constructor
  · intro lively
    refine ⟨fun index since watcher starting undisposed found given => ?_, lively.feeds⟩
    obtain ⟨held, there, live⟩ := (kept.live index).2 ⟨starting, undisposed⟩
    obtain rfl := Option.some.inj ((custody_tenure found).symm.trans there)
    exact lively.watchers index watcher since found live given
  · intro lively
    refine ⟨fun index watcher since found live given => ?_, lively.feeds⟩
    have running := (kept.live index).1 ⟨_, custody_tenure found, live⟩
    exact lively.watchers index since watcher running.1 running.2 found given

end Moments

/-- Whoever asks a server for the health is answered 200 if all that is watched is lively, and 503
otherwise: between the steps of a script, and at any moment in the middle of one, such as between the
calls of a start, while the clock may go on.  A watcher that has a say in this was enlisted at one
time. -/
theorem health_tells (clock allowed : Int) (commitment : Commitment) (origins : List String)
    (steps : List (Step α)) {script now : Script α}
    (begun : script = start (.start clock allowed commitment) origins)
    (ran : now = script.run steps) {request : Http.Request} (asks : Http.AsksHealth request) :
    (∀ handle source, now.source? handle = some source → ∃ response,
      (now.step (.request handle request)).2 = .ok (.response (.ok response)) ∧
        (response.status = 200 ↔ script.Lively steps allowed) ∧
        (response.status = 503 ↔ ¬ script.Lively steps allowed)) ∧
    (∀ moment book admitted, Transitions now.session moment → ∃ response,
      Http.Server.respond ⟨moment.liveness.report moment.clock, book, admitted⟩ request =
        .ok response ∧
        (response.status = 200 ↔ script.LivelyAt steps allowed moment) ∧
        (response.status = 503 ↔ ¬ script.LivelyAt steps allowed moment)) ∧
    (∀ step, step.callsRegistry = false → Transitions now.session (now.step step).1.session) ∧
    ∀ moment index (watcher : Watcher α), Transitions now.session moment →
      moment.watchers[index]? = some watcher → watcher.watch.disposed = false →
      watcher.request.options.liveness = true →
        ∃! since, EnlistedAt script.session index since moment := by
  subst ran
  have answers (server : Http.Server) : ∃ response, server.respond request = .ok response ∧
      (response.status = 200 ↔ server.report.ok = true) ∧
      (response.status = 503 ↔ ¬ server.report.ok = true) := by
    obtain ⟨response, answered, status, _⟩ := asks.respond server
    refine ⟨response, answered, ?_⟩
    rw [status]
    cases server.report.ok with
    | true => simp
    | false => simp
  refine ⟨?_, ?_, fun step => transitions_step (reached_begun begun steps).aimed, ?_⟩
  · intro handle source known
    rw [← livelyAt_iff begun steps, ← ok_iff_livelyAt begun .refl]
    obtain ⟨response, answered, good, bad⟩ := answers ⟨(script.run steps).report, _, _⟩
    refine ⟨response, ?_, good, bad⟩
    simp only [Script.step, readOnly, Script.respond, known]
    rw [answered]
  · intro moment book admitted transitions
    rw [← ok_iff_livelyAt begun transitions]
    exact answers ⟨_, book, admitted⟩
  · intro moment index watcher transitions
    exact existsUnique_enlistedAt begun transitions

/-- A byte is watched from 0 on, with a second reading at 300 that finds a new one.  A feed that was
dropped and a watcher that failed to start are silent for as long. -/
def readSteps : List (Step UInt8) :=
  [.register "dropped", .dropFeed 0, .watch ⟨"absent", .fill 2, .own firstByte, {}⟩,
    .change (.store (.fill 1) ⟨#[1], some 5⟩),
    .plan .subscribe { after := [.store (.fill 1) ⟨#[2], some 6⟩, .advance 300] },
    .watch ⟨"byte", .fill 1, .own firstByte, { handler := .throws "unread" }⟩]

/-- The malformed version of 600 is given to a handler that throws. -/
def heardSteps : List (Step UInt8) :=
  readSteps ++ [.change (.advance 300), .change (.announce (.fill 1) ⟨#[], some 7⟩),
    .change (.advance 600)]

/-- The status of the answer to a request for the health. -/
def healthStatus? (script : Script α) : Option Nat :=
  match (script.step (.request 0 ⟨"GET", "/api/v1/health", []⟩)).2 with
  | .ok (.response (.ok response)) => some response.status
  | _ => none

def unheard : Script UInt8 := start (.start 0 1000 .confirmed) []

/-- 600 after the last delivery the health is good, and 1200 after it no more.  It is not good either
900 after the second reading, if that is 1200 after the registration of the feed. -/
theorem health_tells_heardByte :
    ((unheard.run heardSteps).healthStatus? = some 200 ∧ unheard.Lively heardSteps 1000) ∧
    ((unheard.run (heardSteps ++ [.change (.advance 600)])).healthStatus? = some 503 ∧
      ¬ unheard.Lively (heardSteps ++ [.change (.advance 600)]) 1000) ∧
    ((unheard.run (readSteps ++ [.change (.advance 900)])).healthStatus? = some 503 ∧
      ¬ unheard.Lively (readSteps ++ [.change (.advance 900)]) 1000) := by
  have asks : Http.AsksHealth ⟨"GET", "/api/v1/health", []⟩ :=
    ⟨rfl, by decide, by decide +kernel, rfl⟩
  have begun : unheard = start (.start 0 1000 .confirmed) [] := rfl
  have tells {steps : List (Step UInt8)} {status : Nat}
      (known : ((unheard.run steps).source? 0).isSome = true)
      (answers : (unheard.run steps).healthStatus? = some status) :
      (status = 200 → unheard.Lively steps 1000) ∧
        (status = 503 → ¬ unheard.Lively steps 1000) := by
    obtain ⟨source, known⟩ := Option.isSome_iff_exists.1 known
    obtain ⟨response, answered, good, bad⟩ :=
      (health_tells 0 1000 .confirmed [] steps begun rfl asks).1 0 source known
    rw [healthStatus?, answered] at answers
    obtain rfl : response.status = status := Option.some.inj answers
    exact ⟨good.1, bad.1⟩
  have early : (unheard.run heardSteps).healthStatus? = some 200 := by
    decide +kernel
  have late : (unheard.run (heardSteps ++ [.change (.advance 600)])).healthStatus? = some 503 := by
    decide +kernel
  have unheard_still :
      (unheard.run (readSteps ++ [.change (.advance 900)])).healthStatus? = some 503 := by
    decide +kernel
  exact ⟨⟨early, (tells (by decide +kernel) early).1 rfl⟩,
    ⟨late, (tells (by decide +kernel) late).2 rfl⟩,
    unheard_still, (tells (by decide +kernel) unheard_still).2 rfl⟩

end Script
end SlabBook

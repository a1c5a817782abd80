import SlabBook.Proofs.Streams

/-!
# Malformed accounts

An account that does not decode leaves no mark on the watcher that receives it.  It can be inserted
anywhere into what a watcher receives, and neither its readings nor what it makes of everything else
change.  One that is not from before the watcher's slot is spoken of once, in the log and to the
handler.

* `deliver_refused`, `finish_refused` — a malformed notification and a malformed second reading;
* `Script.malformed_unseen` — both, with the comparison of any two runs.
-/

namespace SlabBook

variable {α : Type}

namespace Event

/-- The event says that an account did not decode: it is a report or a warning. -/
def complains : Event → Bool
  | .reported _ => true
  | .logged entry => entry.level = .warn
  | _ => false

end Event

/-- The complaints about an account that does not decode; none about one that is passed over. -/
def WatchRequest.complaintsUnless (passed : Bool) (request : WatchRequest α) (slot : Option Int)
    (cause : PayloadError) : List Event :=
  if passed then [] else request.complaints slot cause

theorem filter_complaints (request : WatchRequest α) (slot : Option Int) (cause : PayloadError) :
    (request.complaints slot cause).filter Event.complains = request.complaints slot cause := by
  refine List.filter_eq_self.2 fun event member => ?_
  rcases List.mem_append.1 member with noted | reported
  · unfold WatchOptions.noted at noted
    split at noted
    · obtain rfl := List.mem_singleton.1 noted
      rfl
    · cases noted
  · split at reported
    · cases reported
    · obtain rfl := List.mem_singleton.1 reported
      rfl

theorem filter_thrown (listener : Listener) (outcome : Except Fault Unit) :
    (listener.thrown outcome).filter Event.complains = [] := by
  cases outcome <;> rfl

theorem filter_noted_stale (options : WatchOptions) (feed : String) (address : Address)
    (slot : Option Int) (latest : Int) :
    (options.noted (.skippedStale feed address slot latest)).filter Event.complains = [] := by
  unfold WatchOptions.noted
  split <;> rfl

namespace Watch

variable {α ε : Type} {decode : Account → Except ε α} {watch : Watch α} {account : Account}
  {cause : ε}

/-- What a watch makes of an account that does not decode. -/
theorem notify_refused (now : Int) (refused : decode account = .error cause) :
    watch.notify decode now account = (watch,
      if watch.disposed then .ignored
      else ((watch.newerThan? account.slot).map .stale).getD (.malformed cause)) := by
  simp only [notify, apply, refused]
  split
  · rfl
  · cases watch.newerThan? account.slot <;> rfl

theorem catchUp_refused (now : Int) (refused : decode account = .error cause) :
    watch.catchUp decode now account =
      (watch, ((watch.asNewAs? account.slot).map .stale).getD (.malformed cause)) := by
  simp only [catchUp, apply, refused]
  cases watch.asNewAs? account.slot <;> rfl

end Watch

namespace Session

variable {s : Session α} {index : Nat} {watcher : Watcher α} {cause : PayloadError}

/-- A malformed notification pings the feed and is spoken of.  Nothing else comes of it. -/
theorem deliver_refused {listener : Listener} {version : Stored}
    (sink : listener.sink = .watcher index) (found : s.watchers[index]? = some watcher)
    (refused : watcher.request.format.decode (version.account listener.address) = .error cause) :
    ∃ said, s.deliver version listener = (s.pingWatcher watcher).recordAll
        (.delivered s.clock listener (version.account listener.address) :: said) ∧
      said.filter Event.complains = watcher.request.complaintsUnless
        (watcher.watch.disposed || (watcher.watch.newerThan? version.slot).isSome) version.slot
        cause := by
  have pinged : (s.pingWatcher watcher).watchers[index]? = some watcher := by
    rw [pingWatcher_watchers, found]
  have slot : (version.account listener.address).slot = version.slot := rfl
  have whole := deliver_eq sink found version
  simp only [Watch.notify_refused s.clock refused, setWatcher_self pinged, slot] at whole
  refine ⟨_, whole, ?_⟩
  unfold WatchRequest.complaintsUnless
  cases watcher.watch.disposed with
  | true => rfl
  | false =>
    cases watcher.watch.newerThan? version.slot with
    | some latest =>
      simp [WatchRequest.remarks, WatchRequest.verdict, Listener.thrown, filter_noted_stale]
    | none =>
      simp [WatchRequest.remarks, WatchRequest.verdict, filter_complaints, filter_thrown, slot]

/-- A malformed second reading is spoken of, and the start goes on as if there had been none, unless
the handler throws. -/
theorem finish_refused {bad : Account} (listener : Nat) (found : s.watchers[index]? = some watcher)
    (refused : watcher.request.format.decode bad = .error cause)
    (patient : watcher.request.options.handler.outcome = .ok ()) :
    s.finish index watcher.request listener (some bad) =
      (s.recordAll (watcher.request.complaintsUnless (watcher.watch.asNewAs? bad.slot).isSome
        bad.slot cause)).finish index watcher.request listener none := by
  unfold finish
  simp only [takeUp, found, Watch.catchUp_refused s.clock refused, setWatcher_self found]
  cases watcher.watch.asNewAs? bad.slot with
  | some latest => rfl
  | none =>
    simp only [Option.map_none, Option.getD_none, WatchRequest.verdict, patient]
    rfl

theorem value_of_lived {history : List (Occurrence PayloadError)}
    (lived : Lived s index watcher history) :
    s.value (.watcher index) = .snapshot watcher.latest := by
  simp only [value, lived.found]

end Session

namespace Script

open Session

/-- What a watcher has made of its stream, once accounts that do not decode are inserted into it. -/
theorem Receives.alike_of_inserted {now other : Script α} {index position : Nat}
    {request again : WatchRequest α} {inputs noisy : List Input}
    (receives : now.Receives index request inputs)
    (receives_too : other.Receives position again noisy) (format : again.format = request.format)
    (inserted : Watch.Inserted (Watch.Refused request.format.decode) inputs noisy) :
    ∃ watcher history double loud, Lived now.session index watcher history ∧
      history.map (·.input) = inputs ∧ Lived other.session position double loud ∧
      loud.map (·.input) = noisy ∧ watcher.latest = double.latest ∧
      Watch.Inserted (Watch.PassedOver request.format.decode) history loud := by
  obtain ⟨watcher, history, lived, rfl, named⟩ := receives.lived
  obtain ⟨double, loud, lived_too, rfl, named_too⟩ := receives_too.lived
  obtain ⟨alike, kept⟩ :=
    lived.past.alike_of_inserted (format ▸ lived_too.past) named named_too inserted
  exact ⟨watcher, history, double, loud, lived, named, lived_too, named_too, alike.latest, kept⟩

/-- Every watcher at every moment has a history.  Let accounts that do not decode be inserted into
what a watcher received.  That can happen, and any watcher to which it did reads the same and has made
the same of everything else; in particular any live watcher whose whole stream is known.  A malformed
notification, whenever it comes, changes nothing but what is said and when the feed was last heard of,
and it is complained of once unless it is passed over.  A start whose second look finds a malformed
account ends, if the handler does not throw, as if that look had found nothing. -/
theorem malformed_unseen {script : Script α} (reached : script.Reached) :
    AllLived script.session ∧
    (∀ (s : Session α) index watcher history inputs, Lived s index watcher history →
      Watch.Inserted (Watch.Refused watcher.request.format.decode) (history.map (·.input)) inputs →
      (∃ watch noisy, Watch.History watcher.request.format.decode watch noisy ∧
        noisy.map (·.input) = inputs) ∧
      ∀ other position double noisy, Lived other position double noisy →
        double.request.format = watcher.request.format → noisy.map (·.input) = inputs →
        other.value (.watcher position) = s.value (.watcher index) ∧
          Watch.Inserted (Watch.PassedOver watcher.request.format.decode) history noisy) ∧
    (∀ (now : Script α) index request inputs other position again noisy,
      Receives now index request inputs →
      Receives other position again noisy → again.format = request.format →
      Watch.Inserted (Watch.Refused request.format.decode) inputs noisy →
        other.session.value (.watcher position) = now.session.value (.watcher index) ∧
        ∃ watcher history double loud, Lived now.session index watcher history ∧
          history.map (·.input) = inputs ∧ Lived other.session position double loud ∧
          loud.map (·.input) = noisy ∧
          Watch.Inserted (Watch.PassedOver request.format.decode) history loud) ∧
    (∀ (s : Session α) index watcher listener version cause, listener.sink = .watcher index →
      s.watchers[index]? = some watcher →
      watcher.request.format.decode (version.account listener.address) = .error cause →
      ∃ said, s.deliver version listener = (s.pingWatcher watcher).recordAll
          (.delivered s.clock listener (version.account listener.address) :: said) ∧
        said.filter Event.complains = watcher.request.complaintsUnless
          (watcher.watch.disposed || (watcher.watch.newerThan? version.slot).isSome) version.slot
          cause) ∧
    ∀ (before : Session α) request index listener first bad ready cause,
      LooksTwice before request index listener first (some bad) ready →
      request.format.decode bad = .error cause → request.options.handler.outcome = .ok () →
      ∃ watcher, ready.watchers[index]? = some watcher ∧ before.watchAccount request =
        (ready.recordAll (request.complaintsUnless (watcher.watch.asNewAs? bad.slot).isSome bad.slot
          cause)).finish index request listener none := by
  refine ⟨reached.allLived, ?_, ?_, ?_, ?_⟩
  · intro s index watcher history inputs lived inserted
    refine ⟨lived.past.exists_of_inserted rfl inserted, ?_⟩
    intro other position double noisy lived_too format named
    obtain ⟨alike, kept⟩ :=
      lived.past.alike_of_inserted (format ▸ lived_too.past) rfl named inserted
    refine ⟨?_, kept⟩
    rw [value_of_lived lived, value_of_lived lived_too]
    exact congrArg Value.snapshot alike.latest.symm
  · intro now index request inputs other position again noisy receives receives_too format inserted
    obtain ⟨watcher, history, double, loud, lived, named, lived_too, named_too, latest, kept⟩ :=
      receives.alike_of_inserted receives_too format inserted
    refine ⟨?_, watcher, history, double, loud, lived, named, lived_too, named_too, kept⟩
    rw [value_of_lived lived, value_of_lived lived_too, latest]
  · intro s index watcher listener version cause sink found refused
    exact deliver_refused sink found refused
  · intro before request index listener first bad ready cause looks refused patient
    obtain ⟨watcher, found, rfl⟩ := looks.found
    exact ⟨watcher, found,
      looks.watchAccount_eq.trans (finish_refused listener found refused patient)⟩

theorem eq_of_toOption {β : Type} {result : Session α × Except Fault β} {value : β}
    (success : result.2.toOption = some value) : result = (result.1, .ok value) := by
  rcases result with ⟨s, outcome⟩
  cases outcome with
  | error fault => cases success
  | ok answer =>
    cases success
    rfl

/-- A session at the second look of a start. -/
def hearing (before : Session α) (request : WatchRequest α) (value : Snapshot α) (slot : Option Int)
    (index listener : Nat) : Session α :=
  let looked := (before.fetch request.address).1
  ((looked.enlist request value slot).1.subscribe request.address (.watcher index)).1.holdListener
    index listener

theorem looksTwice_of_answers {before : Session α} {request : WatchRequest α} {value : Snapshot α}
    {first : Account} {second : Option Account} {index listener : Nat}
    (look : (before.fetch request.address).2.toOption = some (some first))
    (size : (before.fetch request.address).1.watchers.size = index)
    (decoded : request.format.decode first = .ok value)
    (subscribed : (((before.fetch request.address).1.enlist request value first.slot).1.subscribe
      request.address (.watcher index)).2.toOption = some listener)
    (again : ((hearing before request value first.slot index listener).fetch
      request.address).2.toOption = some second) :
    LooksTwice before request index listener first second
      ((hearing before request value first.slot index listener).fetch request.address).1 := by
  subst size
  exact .intro (eq_of_toOption look) decoded (eq_of_toOption subscribed) (eq_of_toOption again)

/-- The handler throws. -/
def touchy : WatchRequest UInt8 := ⟨"byte", .fill 1, .own firstByte, { handler := .throws "no" }⟩

def plainByte : WatchRequest UInt8 := ⟨"byte", .fill 1, .own firstByte, {}⟩

def byteAt (byte : UInt8) (slot : Int) : Stored := ⟨#[byte], some slot⟩

/-- Nothing to decode. -/
def emptyAt (slot : Int) : Stored := ⟨#[], some slot⟩

def readByte (byte : UInt8) (slot : Int) : Account := (byteAt byte slot).account (.fill 1)

def readEmpty (slot : Int) : Account := (emptyAt slot).account (.fill 1)

def storedByte : Script UInt8 :=
  (start (.start 0 1000 .confirmed) []).run [.change (.store (.fill 1) (byteAt 1 5))]

/-- The watcher is notified of these versions. -/
def watchedByte (versions : List Stored) : Script UInt8 :=
  (storedByte.step (.watch touchy)).1.run
    (versions.map fun version => .change (.announce (.fill 1) version))

def quietBytes : List Stored := [byteAt 2 6]

/-- Two malformed notifications more, from a later and from an earlier slot. -/
def loudBytes : List Stored := [emptyAt 9, byteAt 2 6, emptyAt 4]

def heardBytes (accounts : List Account) : List Input :=
  .first (readByte 1 5) :: .reread (readByte 1 5) :: accounts.map .notified

theorem begins_storedByte : Begins storedByte (.watch touchy) storedByte.session touchy 0 none := by
  have success : (storedByte.session.watchAccount touchy).2.toOption = some 0 := by
    decide +kernel
  exact .watch (eq_of_toOption success)

theorem looksTwice_storedByte :
    LooksTwice storedByte.session touchy 0 1 (readByte 1 5) (some (readByte 1 5))
      ((hearing storedByte.session touchy (.own 1) (some 5) 0 1).fetch (.fill 1)).1 := by
  have decoded : touchy.format.decode (readByte 1 5) = .ok (.own 1) := rfl
  exact looksTwice_of_answers (by decide +kernel) (by decide +kernel) decoded (by decide +kernel)
    (by decide +kernel)

theorem receives_watchedByte {versions : List Stored} {accounts : List Account}
    (live : (watchedByte versions).session.isDisposed 0 = false)
    (heard : heardBy 0 ((watchedByte versions).events.drop
      ((hearing storedByte.session touchy (.own 1) (some 5) 0 1).fetch
        (.fill 1)).1.events.length) = accounts) :
    Receives (watchedByte versions) 0 touchy (heardBytes accounts) := by
  have unheard : heardBy 0 ((hearing storedByte.session touchy (.own 1) (some 5) 0 1).fetch
      (.fill 1)).1.events = [] := by
    decide +kernel
  have receives := Receives.intro ⟨0, 1000, .confirmed, [], _, rfl⟩ begins_storedByte
    looksTwice_storedByte _ live
  rw [unheard] at receives
  rw [← heard]
  exact receives

theorem inserted_loudBytes :
    Watch.Inserted (Watch.Refused touchy.format.decode) (heardBytes [readByte 2 6])
      (heardBytes [readEmpty 9, readByte 2 6, readEmpty 4]) := by
  have refused (slot : Int) :
      Watch.Refused touchy.format.decode (.notified (readEmpty slot)) := nofun
  exact ((((Watch.Inserted.start _).keep (.reread (readByte 1 5))).insert _ (refused 9)).keep
    (.notified (readByte 2 6))).insert _ (refused 4)

/-- What an account without data is refused for. -/
def noData : PayloadError := .thrown (.error "no data")

/-- The second look will find a malformed account. -/
def spoiledByte : Script UInt8 :=
  (start (.start 0 1000 .confirmed) []).run
    [.change (.store (.fill 1) (byteAt 1 5)), .plan .fetch {},
      .plan .fetch { before := [.store (.fill 1) (emptyAt 9)] }]

theorem looksTwice_spoiledByte :
    LooksTwice spoiledByte.session plainByte 0 1 (readByte 1 5) (some (readEmpty 9))
      ((hearing spoiledByte.session plainByte (.own 1) (some 5) 0 1).fetch (.fill 1)).1 := by
  have decoded : plainByte.format.decode (readByte 1 5) = .ok (.own 1) := rfl
  exact looksTwice_of_answers (by decide +kernel) (by decide +kernel) decoded (by decide +kernel)
    (by decide +kernel)

/-- The malformed notifications do not show, the one that is not older is complained of once, and
the start whose second look finds a malformed account succeeds. -/
theorem malformed_unseen_loudBytes :
    (watchedByte loudBytes).session.value (.watcher 0) =
        (watchedByte quietBytes).session.value (.watcher 0) ∧
      (∃ watcher said,
        (watchedByte quietBytes).session.deliver (emptyAt 9) ⟨1, .fill 1, .watcher 0⟩ =
          ((watchedByte quietBytes).session.pingWatcher watcher).recordAll
            (.delivered 0 ⟨1, .fill 1, .watcher 0⟩ (readEmpty 9) :: said) ∧
        said.filter Event.complains =
          [.logged (.droppedMalformed "byte" (some 9) ⟨.fill 1, noData⟩),
            .reported ⟨.fill 1, noData⟩]) ∧
      (spoiledByte.session.watchAccount plainByte).2 = .ok 0 := by
  have reached : storedByte.Reached := ⟨0, 1000, .confirmed, [], _, rfl⟩
  obtain ⟨_, _, unseen, spoken, finishes⟩ := malformed_unseen reached
  have quiet : Receives (watchedByte quietBytes) 0 touchy (heardBytes [readByte 2 6]) :=
    receives_watchedByte (by decide +kernel) (by decide +kernel)
  have loud : Receives (watchedByte loudBytes) 0 touchy
      (heardBytes [readEmpty 9, readByte 2 6, readEmpty 4]) :=
    receives_watchedByte (by decide +kernel) (by decide +kernel)
  refine ⟨(unseen _ _ _ _ _ _ _ _ quiet loud rfl inserted_loudBytes).1, ?_, ?_⟩
  · obtain ⟨watcher, history, lived, requested, _⟩ := quiet.lived
    obtain ⟨said, delivered, complaints⟩ := spoken _ 0 watcher ⟨1, .fill 1, .watcher 0⟩
      (emptyAt 9) noData rfl lived.found (by rw [requested]; rfl)
    have standing : ((watchedByte quietBytes).session.watchers[0]?).map
        (fun watcher => (watcher.watch.slot, watcher.watch.disposed)) = some (some 6, false) := by
      decide +kernel
    simp only [lived.found, Option.map_some, Option.some.injEq, Prod.mk.injEq] at standing
    have current : watcher.watch.newerThan? (emptyAt 9).slot = none := by
      simp [Watch.newerThan?, standing.1, emptyAt]
    refine ⟨watcher, said, delivered, complaints.trans ?_⟩
    rw [requested, current, standing.2]
    rfl
  · obtain ⟨_, _, started⟩ := finishes _ _ _ _ _ _ _ noData looksTwice_spoiledByte rfl rfl
    exact congrArg Prod.snd started

end Script
end SlabBook

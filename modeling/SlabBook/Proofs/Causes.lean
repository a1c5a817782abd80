import SlabBook.Proofs.TwoLooks

/-!
# Why a start fails

A start fails at one of its steps: a look, the first reading, the listener, or a handler that throws
at a malformed second reading.  What was begun is then cleared away: the listener of the watcher, and
the other side of a book.  The start answers the fault of the step that failed, as long as the
clearing away succeeds; a fault in there takes the place of the cause.

* `watchAccount_error_iff`, `watchBook_error_iff` — the failing steps, and what is answered;
* `Session.failure_surfaces` — both, with what is needed for the cause to be answered;
* `Session.removal_masks_cause` — a cause that is not answered.
-/

namespace SlabBook

variable {α : Type}

/-- The fault that is answered for a cause, after some clearing away. -/
def Fault.surfaced (cause : Fault) (clearings : List (Except Fault Unit)) : Fault :=
  clearings.foldl
    (fun fault outcome => match outcome with | .ok () => fault | .error later => later) cause

namespace Fault

variable {cause : Fault} {clearings : List (Except Fault Unit)}

theorem surfaced_concat (cause : Fault) (clearings : List (Except Fault Unit))
    (last : Except Fault Unit) :
    cause.surfaced (clearings ++ [last]) =
      match last with | .ok () => cause.surfaced clearings | .error later => later := by
  rw [surfaced, List.foldl_append]
  rfl

/-- The cause is answered if everything is cleared away. -/
theorem surfaced_of_cleared (cleared : ∀ outcome ∈ clearings, outcome = .ok ()) :
    cause.surfaced clearings = cause := by
  induction clearings using List.reverseRecOn with
  | nil => rfl
  | append_singleton clearings last ih =>
    rw [surfaced_concat, cleared last (by simp)]
    exact ih fun outcome member => cleared outcome (List.mem_append_left _ member)

/-- The cause is answered, or a fault of the clearing away. -/
theorem surfaced_cases (cause : Fault) (clearings : List (Except Fault Unit)) :
    cause.surfaced clearings = cause ∨ .error (cause.surfaced clearings) ∈ clearings := by
  induction clearings using List.reverseRecOn with
  | nil => exact .inl rfl
  | append_singleton clearings last ih =>
    rw [surfaced_concat]
    cases last with
    | ok => exact ih.imp_right (List.mem_append_left _)
    | error later => exact .inr (List.mem_append_right _ (List.mem_singleton_self _))

end Fault

namespace Session

variable {s next : Session α} {index listener : Nat} {request : WatchRequest α} {fault : Fault}

/-- A second reading that is taken up fails only where a handler throws: the account did not decode,
and it was not passed over. -/
theorem takeUp_error {second : Option Account}
    (took : s.takeUp index request second = (next, .error fault)) :
    ∃ account watcher cause message, second = some account ∧ s.watchers[index]? = some watcher ∧
      request.format.decode account = .error cause ∧ watcher.watch.asNewAs? account.slot = none ∧
      request.options.handler = .throws message ∧ fault = .failure message ∧
      next = s.recordAll (request.complaints account.slot cause) := by
  cases second with
  | none => cases took
  | some account =>
  cases found : s.watchers[index]? with
  | none =>
    simp only [takeUp, found] at took
    cases took
  | some watcher =>
  simp only [takeUp, found] at took
  rcases made : watcher.watch.catchUp request.format.decode s.clock account with ⟨watch, reaction⟩
  rw [made] at took
  obtain ⟨rfl, answered⟩ := Prod.mk.injEq .. ▸ took
  cases reaction with
  | malformed cause =>
    cases handler : request.options.handler with
    | absent => simp [WatchRequest.verdict, handler, Handler.outcome] at answered
    | reports => simp [WatchRequest.verdict, handler, Handler.outcome] at answered
    | throws message =>
      simp only [WatchRequest.verdict, handler, Handler.outcome, Except.error.injEq] at answered
      unfold Watch.catchUp at made
      split at made
      · cases made
      · rename_i fresh
        unfold Watch.apply at made
        split at made
        · rename_i cause refused
          cases made
          refine
            ⟨account, watcher, cause, message, rfl, rfl, refused, fresh, rfl, answered.symm, ?_⟩
          rw [setWatcher_self found]
          rfl
        · cases made
  | ignored | stale latest | applied => cases answered

/-! ## Watchers -/

/-- The start of a watcher fails: with the fault of the step at which it fails, what became of the
clearing away, and the session in the end.  Before there is a listener nothing that can fail is left
to clear away. -/
inductive StartFails (s : Session α) (request : WatchRequest α) :
    Fault → List (Except Fault Unit) → Session α → Prop
  | unanswered {looked : Session α} {fault : Fault}
      (look : s.fetch request.address = (looked, .error fault)) :
      StartFails s request fault [] looked
  | missing {looked : Session α} (look : s.fetch request.address = (looked, .ok none)) :
      StartFails s request (.accountNotFound request.address) [] looked
  | malformed {looked : Session α} {first : Account} {cause : PayloadError}
      (look : s.fetch request.address = (looked, .ok (some first)))
      (refused : request.format.decode first = .error cause) :
      StartFails s request (.payload cause) [] looked
  | unheard {looked held : Session α} {first : Account} {value : Snapshot α} {fault : Fault}
      (look : s.fetch request.address = (looked, .ok (some first)))
      (decoded : request.format.decode first = .ok value)
      (subscribed : (looked.enlist request value first.slot).1.subscribe request.address
        (.watcher looked.watchers.size) = (held, .error fault)) :
      StartFails s request fault [] (held.retire looked.watchers.size)
  | unseen {looked held ready next : Session α} {first : Account} {value : Snapshot α} {listener : Nat}
      {fault : Fault} {removal : Except Fault Unit}
      (look : s.fetch request.address = (looked, .ok (some first)))
      (decoded : request.format.decode first = .ok value)
      (subscribed : (looked.enlist request value first.slot).1.subscribe request.address
        (.watcher looked.watchers.size) = (held, .ok listener))
      (again : (held.holdListener looked.watchers.size listener).fetch request.address =
        (ready, .error fault))
      (removed : (ready.retire looked.watchers.size).unsubscribe listener = (next, removal)) :
      StartFails s request fault [removal] next
  | thrown {ready next : Session α} {index listener : Nat} {first second : Account}
      {watcher : Watcher α} {cause : PayloadError} {message : String} {removal : Except Fault Unit}
      (looks : LooksTwice s request index listener first (some second) ready)
      (found : ready.watchers[index]? = some watcher)
      (refused : request.format.decode second = .error cause)
      (fresh : watcher.watch.asNewAs? second.slot = none)
      (throws : request.options.handler = .throws message)
      (removed : ((ready.recordAll (request.complaints second.slot cause)).retire index).unsubscribe
        listener = (next, removal)) :
      StartFails s request (.failure message) [removal] next

/-- Giving up answers the cause or, where the removal fails, that. -/
theorem giveUp_eq {removal : Except Fault Unit} (cause : Fault)
    (removed : (s.retire index).unsubscribe listener = (next, removal)) :
    s.giveUp index listener cause = (next, cause.surfaced [removal]) := by
  unfold giveUp
  rw [removed]
  cases removal <;> rfl

theorem StartFails.watchAccount_eq {cause : Fault} {clearings : List (Except Fault Unit)}
    (fails : StartFails s request cause clearings next) :
    s.watchAccount request = (next, .error (cause.surfaced clearings)) := by
  have at_end (looked : Session α) (value : Snapshot α) (slot : Option Int) :
      (looked.enlist request value slot).2 = looked.watchers.size := rfl
  cases fails with
  | unanswered look =>
    simp only [watchAccount, look]
    rfl
  | missing look =>
    simp only [watchAccount, look]
    rfl
  | malformed look refused =>
    simp only [watchAccount, look, refused]
    rfl
  | unheard look decoded subscribed =>
    simp only [watchAccount, look, decoded, at_end, attach, subscribed]
    rfl
  | unseen look decoded subscribed again removed =>
    simp only [watchAccount, look, decoded, at_end, attach, subscribed, catchUp, again,
      giveUp_eq _ removed]
  | @thrown ready _ index listener first second watcher cause message removal looks found refused
      fresh throws removed =>
    have took : ready.takeUp index request (some second) =
        (ready.recordAll (request.complaints second.slot cause), .error (.failure message)) := by
      simp only [takeUp, found, Watch.catchUp, fresh, Watch.apply, refused, setWatcher_self found,
        WatchRequest.verdict, throws, Handler.outcome]
      rfl
    rw [looks.watchAccount_eq, finish, took]
    simp only [giveUp_eq _ removed]

/-- A start that fails has failed at one of its steps. -/
theorem exists_startFails (failed : s.watchAccount request = (next, .error fault)) :
    ∃ cause clearings, StartFails s request cause clearings next ∧
      fault = cause.surfaced clearings := by
  cases watchAccount_outcome failed with
  | unanswered look => exact ⟨_, _, .unanswered look, rfl⟩
  | missing look => exact ⟨_, _, .missing look, rfl⟩
  | malformed look refused => exact ⟨_, _, .malformed look refused, rfl⟩
  | @failed looked _ first value _ look decoded attaching =>
    cases attach_outcome attaching with
    | unheard subscribed => exact ⟨_, _, .unheard look decoded subscribed, rfl⟩
    | @failed held after listener cause subscribed caught =>
      rcases removed : (after.retire looked.watchers.size).unsubscribe listener with ⟨last, removal⟩
      rw [giveUp_eq cause removed]
      refine ⟨cause, [removal], ?_, rfl⟩
      rcases again : (held.holdListener looked.watchers.size listener).fetch request.address with
        ⟨ready, outcome⟩
      cases outcome with
      | error fault =>
        simp only [catchUp, again] at caught
        cases caught
        exact .unseen look decoded subscribed again removed
      | ok second =>
        rw [catchUp_of_fetched again] at caught
        obtain ⟨account, watcher, reason, message, rfl, found, refused, fresh, throws, rfl, rfl⟩ :=
          takeUp_error caught
        exact .thrown (.intro look decoded subscribed again) found refused fresh throws removed

theorem watchAccount_error_iff :
    s.watchAccount request = (next, .error fault) ↔
      ∃ cause clearings, StartFails s request cause clearings next ∧
        fault = cause.surfaced clearings := by
  constructor
  · exact exists_startFails
  · rintro ⟨cause, clearings, fails, rfl⟩
    exact fails.watchAccount_eq

/-! ## Books -/

/-- The start of a book fails: that of the bids does, or that of the asks, and then the bids are
cleared away last. -/
inductive BookFails (s : Session α) (request : BookRequest) :
    Fault → List (Except Fault Unit) → Session α → Prop
  | bids {next : Session α} {cause : Fault} {clearings : List (Except Fault Unit)}
      (fails : StartFails s (.side .bids request.bids request.market request.capacity
        request.options) cause clearings next) :
      BookFails s request cause clearings next
  | asks {between after next : Session α} {bids : Nat} {cause : Fault}
      {clearings : List (Except Fault Unit)} {release : Except Fault Unit}
      (first : s.watchAccount (.side .bids request.bids request.market request.capacity
        request.options) = (between, .ok bids))
      (fails : StartFails between (.side .asks request.asks request.market request.capacity
        request.options) cause clearings after)
      (released : after.dispose [bids] = (next, release)) :
      BookFails s request cause (clearings ++ [release]) next

theorem watchBook_error_iff {request : BookRequest} :
    s.watchBook request = (next, .error fault) ↔
      ∃ cause clearings, BookFails s request cause clearings next ∧
        fault = cause.surfaced clearings := by
  constructor
  · intro failed
    cases watchBook_outcome failed with
    | noBids first =>
      obtain ⟨cause, clearings, fails, rfl⟩ := exists_startFails first
      exact ⟨cause, clearings, .bids fails, rfl⟩
    | @noAsks _ _ _ _ _ disposal first second released =>
      obtain ⟨cause, clearings, fails, rfl⟩ := exists_startFails second
      refine ⟨cause, _, .asks first fails released, ?_⟩
      rw [Fault.surfaced_concat]
      cases disposal <;> rfl
  · rintro ⟨cause, clearings, fails, rfl⟩
    cases fails with
    | bids fails => simp only [watchBook, fails.watchAccount_eq]
    | @asks between after _ bids _ _ release first fails released =>
      simp only [watchBook, first, fails.watchAccount_eq, released, Fault.surfaced_concat]
      cases release <;> rfl

/-! ## What is answered -/

/-- Every start that fails has failed at one of its steps.  It answers the fault of that step if
everything is cleared away, and else the last fault of the clearing away. -/
theorem failure_surfaces (s : Session α) :
    (∀ request next fault, s.watchAccount request = (next, .error fault) ↔
      ∃ cause clearings, StartFails s request cause clearings next ∧
        fault = cause.surfaced clearings) ∧
    (∀ request next fault, s.watchBook request = (next, .error fault) ↔
      ∃ cause clearings, BookFails s request cause clearings next ∧
        fault = cause.surfaced clearings) ∧
    ∀ (cause : Fault) clearings,
      ((∀ outcome ∈ clearings, outcome = .ok ()) → cause.surfaced clearings = cause) ∧
      (cause.surfaced clearings = cause ∨ .error (cause.surfaced clearings) ∈ clearings) :=
  ⟨fun _ _ _ => watchAccount_error_iff, fun _ _ _ => watchBook_error_iff,
    fun cause clearings => ⟨Fault.surfaced_of_cleared, cause.surfaced_cases clearings⟩⟩

/-- A watched byte whose second look will fail, and so will the removal of its listener. -/
def brokenTwice : Session UInt8 :=
  ((Script.start (.start 0 1000 .processed) []).run
    [.change (.store (.fill 1) ⟨#[1], some 5⟩), .plan .fetch {},
      .plan .fetch { failure := some "gone" },
      .plan .unsubscribe { failure := some "stuck" }]).session

def brokenByte : WatchRequest UInt8 := ⟨"byte", .fill 1, .own firstByte, {}⟩

/-- The second look is what fails, but the start answers that the removal does. -/
theorem removal_masks_cause :
    ¬ ∀ (s next : Session UInt8) (request : WatchRequest UInt8) (cause : Fault)
        (clearings : List (Except Fault Unit)),
      StartFails s request cause clearings next →
        (s.watchAccount request).2 = .error cause := by
  intro answered
  let looked := (brokenTwice.fetch (.fill 1)).1
  let held := ((looked.enlist brokenByte (.own 1) (some 5)).1.subscribe (.fill 1)
    (.watcher looked.watchers.size)).1
  let ready := ((held.holdListener looked.watchers.size 1).fetch (.fill 1)).1
  have stuck : ((ready.retire looked.watchers.size).unsubscribe 1).2 = .error (.failure "stuck") := by
    decide +kernel
  rcases removed : (ready.retire looked.watchers.size).unsubscribe 1 with ⟨next, removal⟩
  rw [removed] at stuck
  obtain rfl : removal = .error (.failure "stuck") := stuck
  have fails : StartFails brokenTwice brokenByte (.failure "gone") [.error (.failure "stuck")] next :=
    @StartFails.unseen _ brokenTwice brokenByte looked held ready _
      ⟨.fill 1, #[1], some Connection.owner, some 5⟩ (.own 1) 1 _ _ rfl rfl rfl rfl removed
  have masked : (brokenTwice.watchAccount brokenByte).2 = .error (.failure "stuck") := rfl
  have shown : (Except.error (.failure "stuck") : Except Fault Nat) = .error (.failure "gone") :=
    masked.symm.trans (answered _ _ _ _ _ fails)
  simp only [Except.error.injEq, Fault.failure.injEq] at shown
  exact absurd shown (by decide)

end Session
end SlabBook

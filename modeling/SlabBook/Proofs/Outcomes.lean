import SlabBook.Live.OrderBook

/-!
# What a start comes to

The ways in which the start of a watcher and of a book can end, with the calls that lead there.

* `attach_outcome`, `watchAccount_outcome`, `watchBook_outcome` — every start ends in one of them.
-/

namespace SlabBook

variable {α : Type}

namespace Session

variable {s next : Session α} {index : Nat} {request : WatchRequest α}

/-- From the enlisting on: nobody is heard, or the second look fails and the watcher gives up, or the
watcher is started. -/
inductive Attaching (s : Session α) (index : Nat) (request : WatchRequest α) :
    Session α → Except Fault Unit → Prop
  | unheard {held : Session α} {fault : Fault}
      (subscribed : s.subscribe request.address (.watcher index) = (held, .error fault)) :
      Attaching s index request (held.retire index) (.error fault)
  | failed {held after : Session α} {id : Nat} {fault : Fault}
      (subscribed : s.subscribe request.address (.watcher index) = (held, .ok id))
      (caught : (held.holdListener index id).catchUp index request = (after, .error fault)) :
      Attaching s index request (after.giveUp index id fault).1
        (.error (after.giveUp index id fault).2)
  | started {held after : Session α} {id : Nat}
      (subscribed : s.subscribe request.address (.watcher index) = (held, .ok id))
      (caught : (held.holdListener index id).catchUp index request = (after, .ok ())) :
      Attaching s index request
        (after.log request.options (.started request.name request.address)) (.ok ())

theorem attach_outcome {outcome : Except Fault Unit}
    (result : s.attach index request = (next, outcome)) :
    Attaching s index request next outcome := by
  unfold attach at result
  rcases subscribed : s.subscribe request.address (.watcher index) with ⟨held, answer⟩
  rw [subscribed] at result
  cases answer with
  | error fault =>
    cases result
    exact .unheard subscribed
  | ok id =>
    dsimp only at result
    rcases caught : (held.holdListener index id).catchUp index request with ⟨after, answer⟩
    rw [caught] at result
    cases answer with
    | error fault =>
      cases result
      exact .failed subscribed caught
    | ok =>
      cases result
      exact .started subscribed caught

/-- The first look fails, finds nothing or finds a malformed account; or the watcher is enlisted, and
the rest fails or not. -/
inductive Watching (s : Session α) (request : WatchRequest α) : Session α → Except Fault Nat → Prop
  | unanswered {looked : Session α} {fault : Fault}
      (look : s.fetch request.address = (looked, .error fault)) :
      Watching s request looked (.error fault)
  | missing {looked : Session α} (look : s.fetch request.address = (looked, .ok none)) :
      Watching s request looked (.error (.accountNotFound request.address))
  | malformed {looked : Session α} {first : Account} {cause : PayloadError}
      (look : s.fetch request.address = (looked, .ok (some first)))
      (refused : request.format.decode first = .error cause) :
      Watching s request looked (.error (.payload cause))
  | failed {looked next : Session α} {first : Account} {value : Snapshot α} {fault : Fault}
      (look : s.fetch request.address = (looked, .ok (some first)))
      (decoded : request.format.decode first = .ok value)
      (attaching : (looked.enlist request value first.slot).1.attach looked.watchers.size request =
        (next, .error fault)) :
      Watching s request next (.error fault)
  | started {looked next : Session α} {first : Account} {value : Snapshot α}
      (look : s.fetch request.address = (looked, .ok (some first)))
      (decoded : request.format.decode first = .ok value)
      (attaching : (looked.enlist request value first.slot).1.attach looked.watchers.size request =
        (next, .ok ())) :
      Watching s request next (.ok looked.watchers.size)

theorem watchAccount_outcome {outcome : Except Fault Nat}
    (result : s.watchAccount request = (next, outcome)) : Watching s request next outcome := by
  unfold watchAccount at result
  rcases look : s.fetch request.address with ⟨looked, lookup⟩
  rw [look] at result
  cases lookup with
  | error fault =>
    cases result
    exact .unanswered look
  | ok found =>
  cases found with
  | none =>
    cases result
    exact .missing look
  | some first =>
  dsimp only at result
  cases decoded : request.format.decode first with
  | error cause =>
    rw [decoded] at result
    cases result
    exact .malformed look decoded
  | ok value =>
  have at_end : (looked.enlist request value first.slot).2 = looked.watchers.size := rfl
  simp only [decoded, at_end] at result
  rcases attaching : (looked.enlist request value first.slot).1.attach looked.watchers.size
    request with ⟨done, answer⟩
  rw [attaching] at result
  cases answer with
  | error fault =>
    cases result
    exact .failed look decoded attaching
  | ok =>
    cases result
    exact .started look decoded attaching

/-- The bids fail to start, or the asks do and the bids are disposed, or both start. -/
inductive WatchingBook (s : Session α) (request : BookRequest) :
    Session α → Except Fault BookWatchers → Prop
  | noBids {next : Session α} {fault : Fault}
      (first : s.watchAccount (.side .bids request.bids request.market request.capacity
        request.options) = (next, .error fault)) :
      WatchingBook s request next (.error fault)
  | noAsks {between after released : Session α} {bids : Nat} {fault : Fault}
      {disposal : Except Fault Unit}
      (first : s.watchAccount (.side .bids request.bids request.market request.capacity
        request.options) = (between, .ok bids))
      (second : between.watchAccount (.side .asks request.asks request.market request.capacity
        request.options) = (after, .error fault))
      (cleared : after.dispose [bids] = (released, disposal)) :
      WatchingBook s request released
        (.error (match disposal with | .ok () => fault | .error later => later))
  | both {between next : Session α} {bids asks : Nat}
      (first : s.watchAccount (.side .bids request.bids request.market request.capacity
        request.options) = (between, .ok bids))
      (second : between.watchAccount (.side .asks request.asks request.market request.capacity
        request.options) = (next, .ok asks)) :
      WatchingBook s request next (.ok ⟨bids, asks⟩)

theorem watchBook_outcome {request : BookRequest} {outcome : Except Fault BookWatchers}
    (result : s.watchBook request = (next, outcome)) : WatchingBook s request next outcome := by
  unfold watchBook at result
  dsimp only at result
  split at result
  · rename_i between fault first
    cases result
    exact .noBids first
  · rename_i between bids first
    split at result
    · rename_i after asks second
      cases result
      exact .both first second
    · rename_i after fault second
      split at result
      · rename_i released cleared
        cases result
        exact .noAsks first second cleared
      · rename_i released later cleared
        cases result
        exact .noAsks first second cleared

end Session
end SlabBook

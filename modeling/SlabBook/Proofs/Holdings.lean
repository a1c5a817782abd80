import SlabBook.Proofs.Custody
import SlabBook.Proofs.Lives

/-!
# What a session's watchers hold

The custody of a session.  Deliveries, lookups, writes and notes leave it as it is; each of the other
parts of an operation changes it in one way.

* `custody_callPhases` — what leaves it as it is;
* `custody_dispose`, `custody_watchAccount`, `custody_watchBook` — the operations.
-/

namespace SlabBook

variable {α : Type}

def Watcher.tenure (watcher : Watcher α) : Tenure where
  name := watcher.request.name
  registers := watcher.request.options.liveness
  feed := watcher.feed
  listener := watcher.listener
  retired := watcher.watch.disposed
  disposing := watcher.disposal.isSome

namespace Event

/-- The event attaches no listener and asks for no removal. -/
def Idle (event : Event) : Prop := event.attached? = none ∧ event.released? = none

theorem idle_of_plain {event : Event} (plain : event.Plain) : event.Idle := by
  cases event with
  | attached listener => exact plain.elim
  | unsubscribed id => exact plain.elim
  | _ => exact ⟨rfl, rfl⟩

end Event

def Liveness.entries (registry : Liveness) : List (Nat × String) :=
  registry.feeds.map fun feed => (feed.id, feed.name)

theorem Liveness.entries_ping (registry : Liveness) (id : Nat) (now : Int) :
    (registry.ping id now).entries = registry.entries := by
  simp only [entries, ping, List.map_map]
  refine List.map_congr_left fun feed _ => ?_
  simp only [Function.comp_apply]
  split <;> rfl

theorem Liveness.entries_drop (registry : Liveness) (id : Nat) :
    (registry.drop id).entries = registry.entries.filter fun entry => entry.1 ≠ id := by
  simp only [entries, drop, List.filter_map]
  rfl

theorem Liveness.entries_register (registry : Liveness) (name : String) (now : Int) :
    (registry.register name now).entries = registry.entries ++ [(registry.nextId, name)] := by
  simp [entries, register]

namespace Session

variable {s next : Session α} {index : Nat} {watcher : Watcher α}

def custody (s : Session α) : Custody where
  feeds := s.liveness.entries
  nextFeed := s.liveness.nextId
  size := s.watchers.size
  tenure index := (s.watchers[index]?).map (·.tenure)
  attached := s.events.filterMap Event.attached?
  nextListener := s.connection.nextListener
  released := s.events.filterMap Event.released?

theorem custody_tenure (found : s.watchers[index]? = some watcher) :
    s.custody.tenure index = some watcher.tenure := by
  simp only [custody, found, Option.map_some]

/-! ## What leaves it as it is -/

theorem custody_recordAll {added : List Event} (idle : ∀ event ∈ added, event.Idle) :
    (s.recordAll added).custody = s.custody := by
  have attached : added.filterMap Event.attached? = [] :=
    List.filterMap_eq_nil_iff.2 fun event member => (idle event member).1
  have released : added.filterMap Event.released? = [] :=
    List.filterMap_eq_nil_iff.2 fun event member => (idle event member).2
  simp only [custody, events_recordAll, List.filterMap_append, attached, released, List.append_nil]
  rfl

theorem custody_record {event : Event} (idle : event.Idle) :
    (s.record event).custody = s.custody := by
  rw [record_eq_recordAll]
  refine custody_recordAll fun other member => ?_
  obtain rfl := List.mem_singleton.1 member
  exact idle

theorem custody_pingFeed (feed : Option Nat) : (s.pingFeed feed).custody = s.custody := by
  cases feed with
  | none => rfl
  | some id =>
    have entries := Liveness.entries_ping s.liveness id s.clock
    simp only [custody, pingFeed, entries]
    rfl

theorem custody_pingWatcher : (s.pingWatcher watcher).custody = s.custody := by
  unfold pingWatcher
  split
  · rfl
  · exact custody_pingFeed _

theorem custody_setWatcher (found : s.watchers[index]? = some watcher) (changed : Watcher α) :
    (s.setWatcher index changed).custody = s.custody.setTenure index changed.tenure := by
  ext : 1
  · rfl
  · rfl
  · exact Array.size_setIfInBounds ..
  · funext queried
    simp only [custody, Custody.setTenure]
    rw [getElem?_setWatcher, Function.update_apply]
    by_cases same : index = queried
    · subst same
      rw [if_pos rfl, if_pos rfl, if_pos (lt_size_of_found found)]
      rfl
    · rw [if_neg same, if_neg (Ne.symm same)]
  · rfl
  · rfl
  · rfl

/-- A watcher that is told or reads something holds what it held. -/
theorem custody_setWatcher_of_same {changed : Watcher α}
    (found : s.watchers[index]? = some watcher) (same : changed.tenure = watcher.tenure) :
    (s.setWatcher index changed).custody = s.custody := by
  rw [custody_setWatcher found, same, Custody.setTenure_self (custody_tenure found)]

theorem idle_of_said {request : WatchRequest α} {account : Account} {listener : Listener}
    {reaction : Reaction PayloadError} :
    ∀ event ∈ request.remarks account reaction ++ listener.thrown (request.verdict reaction),
      event.Idle :=
  fun event member => Event.idle_of_plain (plain_of_said event member)

theorem custody_deliver (version : Stored) (listener : Listener) :
    (s.deliver version listener).custody = s.custody := by
  have delivered : (Event.delivered s.clock listener
      (version.account listener.address)).Idle := ⟨rfl, rfl⟩
  rcases s.deliver_cases version listener with ⟨index, watcher, sink, found⟩ | ⟨_, recorded⟩
  · have pinged : (s.pingWatcher watcher).watchers[index]? = some watcher := by
      rw [pingWatcher_watchers, found]
    rw [deliver_eq sink found]
    dsimp only
    rw [custody_recordAll (List.forall_mem_cons.2 ⟨delivered, idle_of_said⟩),
      custody_setWatcher_of_same pinged, custody_pingWatcher]
    simp only [Watcher.tenure, Watch.disposed_notify]
  · rw [recorded]
    exact custody_record delivered

theorem custody_keep (change : Change) : (s.keep change).custody = s.custody := by
  cases change <;> rfl

theorem custody_change (change : Change) : (s.change change).custody = s.custody := by
  refine @change_invariant _ s (fun now => now.custody = s.custody) change ?_
    fun now version listener _ same => (custody_deliver version listener).trans same
  rw [custody_keep]
  exact custody_record ⟨rfl, rfl⟩

/-- Calls leave it. -/
theorem custody_callPhase {allowed : Change → Prop} (phase : CallPhase allowed s next) :
    next.custody = s.custody := by
  cases phase with
  | change change happens => exact custody_change change
  | note event plain => exact custody_record (Event.idle_of_plain plain)
  | answer address found current => exact custody_record ⟨rfl, rfl⟩
  | takePlan kind => rfl

theorem custody_callPhases {allowed : Change → Prop} (phases : CallPhases allowed s next) :
    next.custody = s.custody := by
  induction phases with
  | refl => rfl
  | tail _ phase ih => exact (custody_callPhase phase).trans ih

theorem custody_fetch (address : Address) : (s.fetch address).1.custody = s.custody :=
  custody_callPhases (callPhases_fetch s.connection.expects_any (Prod.eta (s.fetch address)).symm)

theorem custody_log (options : WatchOptions) (entry : LogRecord) :
    (s.log options entry).custody = s.custody :=
  custody_callPhases (@callPhases_log _ s (fun _ => True) options entry)

theorem custody_takeUp (request : WatchRequest α) (second : Option Account) :
    (s.takeUp index request second).1.custody = s.custody := by
  unfold takeUp
  split
  · rfl
  · rename_i account
    split
    · rfl
    · rename_i watcher found
      have idle : ∀ event ∈ objections request account
          (watcher.watch.catchUp request.format.decode s.clock account).2, event.Idle :=
        fun event member => Event.idle_of_plain (plain_of_mem_objections member)
      dsimp only
      rw [custody_recordAll idle, custody_setWatcher_of_same found]
      simp only [Watcher.tenure, Watch.disposed_catchUp]

/-! ## What changes it -/

theorem custody_attachListener (address : Address) (sink : Sink) :
    (s.attachListener address sink).custody = s.custody.attach address sink := by
  simp only [custody, events_attachListener, List.filterMap_append]
  simp [Custody.attach, attachListener, record, Connection.attach, Event.attached?,
    Event.released?]

theorem custody_subscribe {address : Address} {sink : Sink} {outcome : Except Fault Nat}
    (result : s.subscribe address sink = (next, outcome)) :
    (∃ fault, outcome = .error fault ∧ next.custody = s.custody) ∨
      (outcome = .ok s.custody.nextListener ∧ next.custody = s.custody.attach address sink) := by
  rcases subscribe_phases s.connection.expects_any result with
    ⟨fault, failed, phases⟩ | ⟨asking, made, before, after⟩
  · exact .inl ⟨fault, failed, custody_callPhases phases⟩
  · refine .inr ⟨made, ?_⟩
    rw [custody_callPhases after, custody_attachListener, custody_callPhases before]

theorem custody_unsubscribed (id : Nat) :
    (s.record (.unsubscribed id)).custody = s.custody.release id := by
  simp [custody, Custody.release, events_record, Event.attached?, Event.released?]
  exact ⟨rfl, rfl, rfl, rfl, rfl⟩

theorem custody_removeListener (id : Nat) (plan : Plan) :
    (s.removeListener id plan).1.custody = s.custody := by
  rcases s.removeListener_cases id plan with same | detached
  · rw [same]
  · rw [detached]
    rfl

theorem custody_unsubscribe (id : Nat) :
    (s.unsubscribe id).1.custody = s.custody.release id := by
  have entered := custody_callPhases
    (callPhases_enter s.connection.expects_any .unsubscribe (.unsubscribed id))
  unfold unsubscribe
  exact (custody_removeListener id _).trans (entered.trans (custody_unsubscribed id))

theorem custody_push (request : WatchRequest α) (value : Snapshot α) (slot : Option Int) (now : Int)
    (feed : Option Nat) :
    { s with watchers :=
        s.watchers.push ⟨request, .seed value slot now, feed, none, none⟩ }.custody =
      s.custody.join request feed := by
  ext : 1
  · rfl
  · rfl
  · exact Array.size_push ..
  · funext queried
    simp only [custody, Custody.join, Custody.setTenure, Array.getElem?_push]
    rw [Function.update_apply]
    split <;> rfl
  · rfl
  · rfl
  · rfl

theorem custody_register (name : String) (now : Int) :
    { s with liveness := s.liveness.register name now }.custody = s.custody.register name := by
  ext : 1
  · exact Liveness.entries_register s.liveness name now
  all_goals rfl

theorem custody_enlist (request : WatchRequest α) (value : Snapshot α) (slot : Option Int) :
    (s.enlist request value slot).1.custody = s.custody.enlist request := by
  unfold enlist Custody.enlist
  cases registers : request.options.liveness with
  | true =>
    have registered := custody_register (s := s) request.name s.clock
    simp only [if_true, custody_push (s := { s with
      liveness := s.liveness.register request.name s.clock }), registered]
    rfl
  | false => simp only [Bool.false_eq_true, if_false, custody_push]

theorem custody_dropFeed (feed : Option Nat) :
    (s.dropFeed feed).custody = s.custody.drop feed := by
  cases feed with
  | none => rfl
  | some id =>
    have entries := Liveness.entries_drop s.liveness id
    simp only [custody, dropFeed, entries, Custody.drop]
    rfl

theorem custody_absent (absent : s.watchers[index]? = none) : s.custody.tenure index = none := by
  simp only [custody, absent, Option.map_none]

theorem custody_retire (index : Nat) : (s.retire index).custody = s.custody.retire index := by
  unfold retire Custody.retire
  cases found : s.watchers[index]? with
  | none => simp only [custody_absent found]
  | some watcher =>
    have dropped : (s.dropFeed watcher.feed).watchers[index]? = some watcher := by
      cases watcher.feed <;> exact found
    simp only [custody_tenure found]
    rw [custody_setWatcher dropped, custody_dropFeed]
    rfl

theorem custody_holdListener (index id : Nat) :
    (s.holdListener index id).custody = s.custody.hold index id := by
  unfold holdListener Custody.hold
  cases found : s.watchers[index]? with
  | none => simp only [custody_absent found]
  | some watcher =>
    simp only [custody_tenure found]
    rw [custody_setWatcher found]
    rfl

theorem custody_setDisposal (index : Nat) (disposal : Disposal) :
    (s.setDisposal index disposal).custody = s.custody.noteDisposal index := by
  unfold setDisposal Custody.noteDisposal
  cases found : s.watchers[index]? with
  | none => simp only [custody_absent found]
  | some watcher =>
    simp only [custody_tenure found]
    rw [custody_setWatcher found]
    rfl

/-- A disposal that has begun only ends. -/
theorem custody_setDisposal_again (found : s.watchers[index]? = some watcher)
    (begun : watcher.disposal.isSome) (disposal : Disposal) :
    (s.setDisposal index disposal).custody = s.custody := by
  unfold setDisposal
  simp only [found]
  refine custody_setWatcher_of_same found ?_
  simp only [Watcher.tenure, begun, Option.isSome_some]

/-- What of a disposal happens at once. -/
theorem custody_leave (index : Nat) : (s.leave index).custody = s.custody.dispose index := by
  cases found : s.watchers[index]? with
  | none => simp only [leave, Custody.dispose, found, custody_absent found]
  | some watcher =>
  have held := custody_tenure found
  cases first : watcher.disposal with
  | some begun =>
    have disposing : watcher.tenure.disposing = true := by simp [Watcher.tenure, first]
    rw [leave_again found first, Custody.dispose_again held disposing]
  | none =>
    have undisposed : watcher.tenure.disposing = false := by simp [Watcher.tenure, first]
    have holding : watcher.tenure.listener = watcher.listener := rfl
    rw [Custody.dispose_first held undisposed, Custody.leave, held, Option.bind_some, holding]
    cases listener : watcher.listener with
    | none =>
      rw [leave_of_unheard found listener first, custody_setDisposal, custody_retire]
    | some id =>
      rw [leave_of_listener found listener first, custody_unsubscribed, custody_setDisposal,
        custody_retire, Custody.release_noteDisposal]

theorem custody_startDisposal (index : Nat) :
    (s.startDisposal index).custody = s.custody.dispose index :=
  (custody_callPhases (startDisposal_phases s.connection.expects_any index)).trans
    (custody_leave index)

theorem Finished.custody (finished : Finished s index next) : next.custody = s.custody := by
  cases finished with
  | nothing => rfl
  | failed found due outcome => exact custody_setDisposal_again found (by rw [due]; rfl) _
  | @removed removed watcher id plan found listener due outcome removal =>
    have there : removed.watchers[index]? = some watcher := by
      rcases removal with rfl | rfl <;> exact found
    have same : removed.custody = s.custody := by rcases removal with rfl | rfl <;> rfl
    rw [custody_log, custody_setDisposal_again there (by rw [due]; rfl), same]

theorem custody_finishDisposal (index : Nat) : (s.finishDisposal index).custody = s.custody :=
  (s.finish_cases index).custody

theorem custody_startDisposals (indices : List Nat) :
    (indices.foldl startDisposal s).custody = indices.foldl Custody.dispose s.custody := by
  induction indices generalizing s with
  | nil => rfl
  | cons index rest ih =>
    rw [List.foldl_cons, ih, custody_startDisposal]
    rfl

theorem custody_finishDisposals (indices : List Nat) :
    (indices.foldl finishDisposal s).custody = s.custody := by
  induction indices generalizing s with
  | nil => rfl
  | cons index rest ih => exact ih.trans (custody_finishDisposal index)

theorem custody_dispose (indices : List Nat) :
    (s.dispose indices).1.custody = indices.foldl Custody.dispose s.custody :=
  (custody_finishDisposals indices).trans (custody_startDisposals indices)

/-! ## Operations -/

variable {request : WatchRequest α}

theorem custody_catchUp (index : Nat) (request : WatchRequest α) :
    (s.catchUp index request).1.custody = s.custody := by
  have looked := custody_fetch (s := s) request.address
  rcases fetched : s.fetch request.address with ⟨answered, outcome⟩
  rw [fetched] at looked
  cases outcome with
  | error fault =>
    simp only [catchUp, fetched]
    exact looked
  | ok second => rw [catchUp_of_fetched fetched, custody_takeUp, looked]

theorem custody_giveUp (index id : Nat) (fault : Fault) :
    (s.giveUp index id fault).1.custody = (s.custody.retire index).release id := by
  rw [giveUp_session, custody_unsubscribe, custody_retire]

/-- From the enlisting on: the watcher retires without a listener, or it is given one and keeps it,
or it retires and gives it up. -/
theorem custody_attach {outcome : Except Fault Unit}
    (result : s.attach index request = (next, outcome)) :
    (∃ fault, outcome = .error fault ∧ next.custody = s.custody.retire index) ∨
      ∃ seated, seated = (s.custody.attach request.address (.watcher index)).hold index
          s.custody.nextListener ∧
        ((∃ fault, outcome = .error fault ∧
            next.custody = (seated.retire index).release s.custody.nextListener) ∨
          (outcome = .ok () ∧ next.custody = seated)) := by
  have asking {held : Session α} {id : Nat}
      (subscribed : s.subscribe request.address (.watcher index) = (held, .ok id)) :
      id = s.custody.nextListener ∧ (held.holdListener index id).custody =
        (s.custody.attach request.address (.watcher index)).hold index id := by
    rcases custody_subscribe subscribed with ⟨_, none, _⟩ | ⟨made, taken⟩
    · cases none
    · exact ⟨Except.ok.inj made, by rw [custody_holdListener, taken]⟩
  cases attach_outcome result with
  | @unheard held fault subscribed =>
    rcases custody_subscribe subscribed with ⟨_, _, same⟩ | ⟨none, _⟩
    · exact .inl ⟨fault, rfl, by rw [custody_retire, same]⟩
    · cases none
  | @failed held after id fault subscribed caught =>
    obtain ⟨rfl, seated⟩ := asking subscribed
    have looked := custody_catchUp (s := held.holdListener index s.custody.nextListener) index
      request
    rw [caught, seated] at looked
    exact .inr ⟨_, rfl, .inl ⟨_, rfl, by rw [custody_giveUp, looked]⟩⟩
  | @started held after id subscribed caught =>
    obtain ⟨rfl, seated⟩ := asking subscribed
    have looked := custody_catchUp (s := held.holdListener index s.custody.nextListener) index
      request
    rw [caught, seated] at looked
    exact .inr ⟨_, rfl, .inr ⟨rfl, by rw [custody_log, looked]⟩⟩

theorem custody_watchAccount {outcome : Except Fault Nat}
    (result : s.watchAccount request = (next, outcome)) :
    Custody.Starts s.custody request outcome next.custody := by
  have looking := custody_fetch (s := s) request.address
  have enlisting {looked : Session α} {first : Account}
      (look : s.fetch request.address = (looked, .ok (some first))) (value : Snapshot α) :
      looked.watchers.size = s.custody.size ∧
        (looked.enlist request value first.slot).1.custody = s.custody.enlist request := by
    rw [look] at looking
    exact ⟨congrArg Custody.size looking, by rw [custody_enlist, looking]⟩
  cases watchAccount_outcome result with
  | unanswered look =>
    rw [look] at looking
    exact looking ▸ .refused _
  | missing look =>
    rw [look] at looking
    exact looking ▸ .refused _
  | malformed look refused =>
    rw [look] at looking
    exact looking ▸ .refused _
  | @failed looked _ first value fault look decoded attaching =>
    obtain ⟨size, enlisted⟩ := enlisting look value
    rw [size] at attaching
    rcases custody_attach attaching with
      ⟨_, _, retired⟩ | ⟨seated, rfl, ⟨_, _, released⟩ | ⟨none, _⟩⟩
    · have left : next.custody = (s.custody.enlist request).leave s.custody.size := by
        rw [retired, enlisted, Custody.enlist_leave]
      exact left ▸ .unheard fault
    · have left : next.custody = (s.custody.welcome request).leave s.custody.size := by
        rw [released, enlisted, Custody.enlist_nextListener, Custody.welcome_leave]
        rfl
      exact left ▸ .released fault
    · cases none
  | @started looked _ first value look decoded attaching =>
    obtain ⟨size, enlisted⟩ := enlisting look value
    rw [size] at attaching ⊢
    rcases custody_attach attaching with ⟨_, none, _⟩ | ⟨seated, rfl, ⟨_, none, _⟩ | ⟨_, kept⟩⟩
    · cases none
    · cases none
    · have stayed : next.custody = s.custody.welcome request := by
        rw [kept, enlisted, Custody.enlist_nextListener]
        rfl
      exact stayed ▸ .started

/-- What the start of a book comes to: a failure restores everything, and a success is that of both
sides. -/
theorem custody_watchBook {own : List Nat} {request : BookRequest}
    {outcome : Except Fault BookWatchers} (sound : Custody.Sound own s.custody)
    (result : s.watchBook request = (next, outcome)) :
    (∃ fault, outcome = .error fault ∧ Custody.Sound own next.custody ∧
        Custody.Restored s.custody next.custody) ∨
      ∃ between, between = s.custody.welcome
          (.side .bids request.bids request.market request.capacity request.options :
            WatchRequest α) ∧
        outcome = .ok ⟨s.custody.size, between.size⟩ ∧ next.custody = between.welcome
          (.side .asks request.asks request.market request.capacity request.options :
            WatchRequest α) := by
  cases watchBook_outcome result with
  | @noBids _ fault first =>
    exact .inl ⟨fault, rfl, (custody_watchAccount first).restored sound⟩
  | @noAsks between after _ bids fault disposal first second cleared =>
    obtain ⟨rfl, welcomed⟩ := (custody_watchAccount first).of_ok
    obtain ⟨sound_after, failed⟩ :=
      (custody_watchAccount second).restored (welcomed ▸ sound.welcome _)
    have disposed := custody_dispose (s := after) [s.custody.size]
    rw [cleared] at disposed
    exact .inl ⟨_, rfl, disposed ▸ (welcomed ▸ failed).of_sibling sound sound_after⟩
  | @both between _ bids asks first second =>
    obtain ⟨rfl, welcomed⟩ := (custody_watchAccount first).of_ok
    obtain ⟨rfl, welcomed_too⟩ := (custody_watchAccount second).of_ok
    exact .inr ⟨between.custody, welcomed, rfl, welcomed_too⟩

end Session
end SlabBook

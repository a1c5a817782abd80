import SlabBook.Proofs.Runs
import SlabBook.Proofs.WalkTree

/-!
# What readers see

Every value that a watcher holds was decoded, whole, from one account that the connection handed
over for the watcher's address.  For a side of a book this means the complete walk of an account of
the right size and kind, and an account that is none of this leaves the value as it was.
-/

namespace SlabBook

variable {α : Type}

/-- The orders are the complete walk of an account that has the size of the capacity and holds the
wanted side. -/
def WholeSide (account : Account) (kind : SideKind) (market : Market) (capacity : Capacity)
    (orders : List Order) : Prop :=
  ∃ slots side, capacity.slots = .ok slots ∧ account.data.size = BookSide.size slots ∧
    BookSide.decode account market capacity = .ok side ∧ side.kind = kind ∧
    side.walk.ending = .complete ∧ orders = side.walk.orders side ∧
    orders.length = side.header.leafCount.toNat ∧ ∀ order ∈ orders, order.side = kind.orderSide

theorem BookSide.size_of_decode_ok {account : Account} {market : Market} {capacity : Capacity}
    {side : BookSide} (decoded : decode account market capacity = .ok side) :
    ∃ slots, capacity.slots = .ok slots ∧ account.data.size = size slots := by
  unfold decode at decoded
  split at decoded
  · cases decoded
  · rename_i slots whole
    split at decoded
    · rename_i exact_size
      exact ⟨slots, whole, exact_size⟩
    · cases decoded

theorem decodeOrders_eq_ok_iff {account : Account} {kind : SideKind} {market : Market}
    {capacity : Capacity} {orders : List Order} :
    decodeOrders account kind market capacity = .ok orders ↔
      WholeSide account kind market capacity orders := by
  unfold decodeOrders
  constructor
  · intro success
    split at success
    · cases success
    · rename_i side decoded
      obtain ⟨slots, whole, exact_size⟩ := BookSide.size_of_decode_ok decoded
      split at success
      · rename_i wanted
        split at success
        · cases success
        · rename_i walked ordered
          cases success
          obtain ⟨complete, rfl⟩ := BookSide.orders_eq_ok_iff.1 ordered
          refine ⟨slots, side, whole, exact_size, decoded, wanted, complete, rfl, ?_, ?_⟩
          · simp [Walk.orders, BookSide.size_leaves_of_complete complete]
          · intro order member
            obtain ⟨leaf, _, rfl⟩ := List.mem_map.1 member
            rw [← wanted]
            rfl
      · cases success
  · rintro ⟨slots, side, _, _, decoded, wanted, complete, rfl, _, _⟩
    have ordered : side.orders = .ok (side.walk.orders side) :=
      BookSide.orders_eq_ok_iff.2 ⟨complete, rfl⟩
    simp only [decoded, if_pos wanted, ordered]

theorem Format.decode_side_eq_ok_iff {kind : SideKind} {market : Market} {capacity : Capacity}
    {account : Account} {value : Snapshot α} :
    (Format.side kind market capacity).decode account = .ok value ↔
      ∃ orders, value = .orders orders ∧ WholeSide account kind market capacity orders := by
  simp only [← decodeOrders_eq_ok_iff, decode]
  cases decodeOrders account kind market capacity with
  | error cause => simp [Except.map]
  | ok orders => simp [Except.map, eq_comm]

namespace Session

variable {s next : Session α} {index : Nat} {watcher : Watcher α}

/-- The connection handed the account over for the address: a fetch returned it or a listener was
notified of it. -/
def Supplied (events : List Event) (address : Address) (account : Account) : Prop :=
  .returned address (some account) ∈ events ∨
    ∃ time listener, listener.address = address ∧ .delivered time listener account ∈ events

theorem Supplied.mono {earlier later : List Event} {address : Address} {account : Account}
    (grown : earlier ⊆ later) (supplied : Supplied earlier address account) :
    Supplied later address account := by
  rcases supplied with returned | ⟨time, listener, placed, delivered⟩
  · exact .inl (grown returned)
  · exact .inr ⟨time, listener, placed, grown delivered⟩

/-- The watcher's value was decoded from one account that was supplied for its address. -/
def Backed (events : List Event) (watcher : Watcher α) : Prop :=
  ∃ account, Supplied events watcher.request.address account ∧
    watcher.request.format.decode account = .ok watcher.latest

/-- All watchers are backed. -/
structure Sourced (s : Session α) : Prop extends Aimed s where
  backed : ∀ (index : Nat) (watcher : Watcher α), s.watchers[index]? = some watcher →
    Backed s.events watcher

/-- Whatever became of it, a backed watcher is backed. -/
theorem Fate.backed {after : Watcher α} (fate : Fate s next index watcher after)
    (grown : s.events ⊆ next.events) (aimed : Aimed s) (found : s.watchers[index]? = some watcher)
    (backed : Backed s.events watcher) : Backed next.events after := by
  obtain ⟨account, supplied, decoded⟩ := backed
  have kept : Supplied next.events watcher.request.address account := supplied.mono grown
  cases fate with
  | kept request watch silent =>
    refine ⟨account, by rw [request]; exact kept, ?_⟩
    rw [request, decoded, latest_of_kept watch]
  | heard version listener attached sink told =>
    have placed := aimed.address_eq attached sink found
    rcases Watch.notify_fst_cases watcher.request.format.decode s.clock watcher.watch
      (version.account listener.address) with same | ⟨took, _⟩
    · rw [same]
      exact ⟨account, kept, decoded⟩
    · refine ⟨_, .inr ⟨s.clock, listener, placed.symm, ?_⟩, took.decoded⟩
      rw [told]
      simp
  | reread newer returned silent =>
    rcases Watch.catchUp_fst_cases watcher.request.format.decode s.clock watcher.watch newer with
      same | ⟨took, _⟩
    · rw [same]
      exact ⟨account, kept, decoded⟩
    · exact ⟨newer, .inl (grown returned), took.decoded⟩

theorem Move.sourced (move : Move s next) (sourced : Sourced s) : Sourced next where
  toAimed := move.aimed sourced.toAimed
  backed := by
    intro index after there
    have grown : s.events ⊆ next.events := move.events_prefix.subset
    cases found : s.watchers[index]? with
    | some watcher =>
      obtain ⟨fated, same, fate⟩ := move.fate found
      obtain rfl : fated = after := Option.some.inj (same.symm.trans there)
      exact fate.backed grown sourced.toAimed found (sourced.backed index watcher found)
    | none =>
      obtain ⟨_, value, account, returned, decoded, seeded⟩ := move.born found there
      refine ⟨account, .inl (grown returned), ?_⟩
      rw [decoded, Watcher.latest, seeded]
      rfl

theorem Moves.sourced (moves : Moves s next) (sourced : Sourced s) : Sourced next := by
  induction moves with
  | refl => exact sourced
  | tail _ move ih => exact move.sourced ih

theorem sourced_start (clock allowedSilence : Int) (commitment : Commitment) :
    Sourced (.start clock allowedSilence commitment : Session α) :=
  { aimed_start clock allowedSilence commitment with
    backed := fun index watcher found => by simp [Session.start] at found }

/-! ## Accounts that do not decode -/

/-- A delivery that a watcher's format refuses leaves the watcher's value as it was. -/
theorem latest_deliver_of_refused (version : Stored) (listener : Listener)
    (found : s.watchers[index]? = some watcher)
    (refused : ∀ value, watcher.request.format.decode (version.account listener.address) ≠
      .ok value) :
    ∃ after, (s.deliver version listener).watchers[index]? = some after ∧
      after.request = watcher.request ∧ after.latest = watcher.latest := by
  rcases s.deliver_cases version listener with ⟨position, there, sink, known⟩ | ⟨_, recorded⟩
  · have pinged : (s.pingWatcher there).watchers = s.watchers := pingWatcher_watchers
    rw [deliver_eq sink known]
    show ∃ after, ((s.pingWatcher there).setWatcher position _).watchers[index]? = some after ∧ _
    rw [getElem?_setWatcher, pinged]
    by_cases same : position = index
    · subst same
      obtain rfl : there = watcher := Option.some.inj (known.symm.trans found)
      rw [if_pos rfl, if_pos (lt_size_of_found found)]
      refine ⟨_, rfl, rfl, ?_⟩
      rcases Watch.notify_fst_cases there.request.format.decode s.clock there.watch
        (version.account listener.address) with same | ⟨took, _⟩
      · exact congrArg Watch.latest same
      · exact absurd took.decoded (refused _)
    · exact ⟨watcher, by rw [if_neg same, found], rfl, rfl⟩
  · rw [recorded]
    exact ⟨watcher, found, rfl, rfl⟩

theorem latest_announce_of_refused (address : Address) (version : Stored)
    (found : s.watchers[index]? = some watcher)
    (refused : ∀ value, watcher.request.format.decode (version.account address) ≠ .ok value) :
    ∃ after, (s.announce address version).watchers[index]? = some after ∧
      after.latest = watcher.latest := by
  have placed : ∀ listener ∈ s.connection.audience address, listener.address = address :=
    fun listener member => of_decide_eq_true (List.mem_filter.1 member).2
  unfold announce
  generalize s.connection.audience address = listeners at placed
  induction listeners generalizing s watcher with
  | nil => exact ⟨watcher, found, rfl⟩
  | cons listener rest ih =>
    have here : listener.address = address := placed listener (List.mem_cons_self ..)
    obtain ⟨between, there, request, latest⟩ :=
      latest_deliver_of_refused version listener found (by rw [here]; exact refused)
    obtain ⟨after, later, same⟩ := ih there (by rw [request]; exact refused)
      fun other member => placed other (List.mem_cons_of_mem _ member)
    exact ⟨after, later, same.trans latest⟩

/-- A watcher of a side holds the whole side of one account. -/
theorem Sourced.whole {kind : SideKind} {address : Address} {market : Market} {capacity : Capacity}
    {options : WatchOptions} (sourced : Sourced s) (found : s.watchers[index]? = some watcher)
    (requested : watcher.request = .side kind address market capacity options) :
    ∃ orders account, watcher.latest = .orders orders ∧ Supplied s.events address account ∧
      WholeSide account kind market capacity orders := by
  obtain ⟨account, supplied, decoded⟩ := sourced.backed index watcher found
  rw [requested] at supplied decoded
  obtain ⟨orders, held, whole⟩ := Format.decode_side_eq_ok_iff.1 decoded
  exact ⟨orders, account, held, supplied, whole⟩

end Session

namespace Script

open Session

variable {script : Script α} {handle : Nat} {part : Option Part}

/-- A reading of a side: the whole side of one account that was supplied for its address, which no
delivery of an account without such a side changes. -/
structure ShowsSide (script : Script α) (handle : Nat) (part : Option Part) (kind : SideKind)
    (address : Address) (market : Market) (capacity : Capacity) (orders : List Order) : Prop where
  reads : script.Reads handle part (.snapshot (.orders orders))
  whole : ∃ account, Supplied script.events address account ∧
    WholeSide account kind market capacity orders
  undisturbed : ∀ version,
    (∀ orders, ¬ WholeSide (version.account address) kind market capacity orders) →
      ∀ change ∈ [.announce address version, .publish address version],
        (script.step (.change change)).1.Reads handle part (.snapshot (.orders orders))

/-- The readings of a book: two sides and the pair of them. -/
def ShowsBook (script : Script α) (handle : Nat) (request : BookRequest) : Prop :=
  ∃ bids asks,
    script.ShowsSide handle (some .bids) .bids request.bids request.market request.capacity bids ∧
    script.ShowsSide handle (some .asks) .asks request.asks request.market request.capacity asks ∧
    script.Reads handle none (.book ⟨bids, asks⟩) ∧
    script.Reads handle (some .book) (.book ⟨bids, asks⟩)

theorem showsSide_of_watcher {source : Source} {index : Nat} {watcher : Watcher α} {kind : SideKind}
    {address : Address} {market : Market} {capacity : Capacity} {options : WatchOptions}
    (part : Option Part) (sourced : Sourced script.session)
    (known : script.source? handle = some source)
    (aimed : partSource source part = .watcher index)
    (found : script.session.watchers[index]? = some watcher)
    (requested : watcher.request = .side kind address market capacity options) :
    ∃ orders, watcher.latest = .orders orders ∧
      script.ShowsSide handle part kind address market capacity orders := by
  obtain ⟨orders, account, held, supplied, whole⟩ := sourced.whole found requested
  have reads := reads_of_watcher known aimed found
  rw [held] at reads
  refine ⟨orders, held, reads, ⟨account, supplied, whole⟩, ?_⟩
  intro version broken change told
  have refused : ∀ value, watcher.request.format.decode (version.account address) ≠ .ok value := by
    intro value decoded
    rw [requested] at decoded
    obtain ⟨orders, _, whole⟩ := Format.decode_side_eq_ok_iff.1 decoded
    exact broken orders whole
  obtain ⟨after, there, same⟩ : ∃ after,
      (script.step (.change change)).1.session.watchers[index]? = some after ∧
        after.latest = watcher.latest := by
    simp only [List.mem_cons, List.not_mem_nil, or_false] at told
    rcases told with rfl | rfl
    · exact latest_announce_of_refused (s := script.session.record _) address version found refused
    · exact latest_announce_of_refused (s := (script.session.record _).store address version)
        address version found refused
  have reads := reads_of_watcher (source?_step (.change change) known) aimed there
  rwa [same, held] at reads

theorem Reached.sourced (reached : script.Reached) : Sourced script.session :=
  reached.invariant sourced_start fun _ _ move => move.sourced

/-- At every moment after the start of a book, and of a side alone, a reading is the complete walk
of one account that was supplied for the side's address and has the side's size and kind, and the
book is the pair of its sides. -/
theorem latest_whole {script : Script α} (reached : script.Reached) :
    (∀ request handle name, (script.step (.watchBook request)).2 = .ok (.handle handle name) →
      ∀ later, (script.step (.watchBook request)).1.Later later →
        later.ShowsBook handle request) ∧
      ∀ kind address market capacity options handle name,
        (script.step (.watch (.side kind address market capacity options))).2 =
            .ok (.handle handle name) →
          ∀ later, (script.step (.watch (.side kind address market capacity options))).1.Later
              later →
            ∃ orders, later.ShowsSide handle none kind address market capacity orders := by
  have first := reached.sourced
  constructor
  · intro request handle name success later after
    obtain ⟨watchers, between, bids_started, asks_started, known⟩ := watchBook_started success
    have sourced : Sourced later.session :=
      Moves.sourced after.moves (Moves.sourced (moves_step script _) first)
    have source := after.source? known
    obtain ⟨bids, bids_there, bids_requested⟩ := bids_started.watcher_found
    obtain ⟨asks, asks_there, asks_requested⟩ := asks_started.watcher_found
    obtain ⟨bids, bids_found, bids_same⟩ :=
      Moves.request (asks_started.moves.trans after.moves) bids_there
    obtain ⟨asks, asks_found, asks_same⟩ := Moves.request after.moves asks_there
    obtain ⟨bid_orders, bids_held, shows_bids⟩ := showsSide_of_watcher (some .bids)
      sourced source rfl bids_found (bids_same.trans bids_requested)
    obtain ⟨ask_orders, asks_held, shows_asks⟩ := showsSide_of_watcher (some .asks)
      sourced source rfl asks_found (asks_same.trans asks_requested)
    have view : later.session.value (.book watchers) = .book ⟨bid_orders, ask_orders⟩ := by
      simp only [value, bookView, sideOrders, bids_found, asks_found, Option.bind_some, bids_held,
        asks_held, Snapshot.orders?, Option.getD_some]
    refine ⟨bid_orders, ask_orders, shows_bids, shows_asks, ?_, ?_⟩
    · exact view ▸ reads_of_source none source
    · exact view ▸ reads_of_source (some .book) source
  · intro kind address market capacity options handle name success later after
    obtain ⟨index, started, known⟩ := watch_started success
    have sourced : Sourced later.session :=
      Moves.sourced after.moves (Moves.sourced (moves_step script _) first)
    obtain ⟨watcher, there, requested⟩ := started.watcher_found
    obtain ⟨now, found, same⟩ := Moves.request after.moves there
    obtain ⟨orders, _, shows⟩ := showsSide_of_watcher none sourced (after.source? known)
      rfl found (same.trans requested)
    exact ⟨orders, shows⟩

/-- A side of one slot with one order in it. -/
def oneOrder (dataType : UInt8) (slot : Int) : Stored where
  data :=
    let word := Bytes.toLE 8
    let header := [dataType :: List.replicate 7 0, word 1, word 0, word 0, word 1]
    let leaf := [[2, 0, 0, 0, 0, 0, 0, 0], word 3, word 1, List.replicate 32 7, word 5, word 0,
      word 9, word 2]
    (header ++ leaf).flatten.toArray
  slot := some slot

def oneOrderRequest : BookRequest := ⟨.fill 1, .fill 2, ⟨6, 6, 100, 10⟩, .whole 1, {}⟩

/-- Both sides are stored, and the bids will be notified of the asks while they subscribe. -/
def oneOrderEach : Script String :=
  (start (.start 0 1000 .confirmed) []).run
    [.change (.store (.fill 1) (oneOrder 5 1)), .change (.store (.fill 2) (oneOrder 6 1)),
      .plan .subscribe { after := [.publish (.fill 1) (oneOrder 6 2)] }]

/-- The book of one order each, once the bids were handed an empty account and the asks disposed,
and the bids watched alone. -/
theorem latest_whole_oneOrderEach :
    oneOrderEach.Reached ∧
      ((oneOrderEach.step (.watchBook oneOrderRequest)).1.run
        [.change (.publish (.fill 1) ⟨#[], some 3⟩), .dispose 0 (some .asks)]).ShowsBook 0
          oneOrderRequest ∧
      ∃ orders, (oneOrderEach.step (.watch
        (.side .asks (.fill 2) ⟨6, 6, 100, 10⟩ (.whole 1) {}))).1.ShowsSide 0 none .asks (.fill 2)
          ⟨6, 6, 100, 10⟩ (.whole 1) orders := by
  have reached : oneOrderEach.Reached := ⟨0, 1000, .confirmed, [], _, rfl⟩
  obtain ⟨books, sides⟩ := latest_whole reached
  refine ⟨reached, ?_, ?_⟩
  · exact books oneOrderRequest 0 "orderbook" (opened?_eq_some_iff.1 (by decide +kernel)) _
      (.of_run _ _)
  · exact sides .asks (.fill 2) ⟨6, 6, 100, 10⟩ (.whole 1) {} 0 "orderbook_asks_subscription"
      (opened?_eq_some_iff.1 (by decide +kernel)) _ (.of_run _ [])

end Script
end SlabBook

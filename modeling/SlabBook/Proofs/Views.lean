import SlabBook.Proofs.Publication

/-!
# Views of a book

A book is two watchers, and its view at a moment is the pair of what they hold then.  Once started they
stay the watchers of the two sides that were asked for, so at any moment both parts of the view are whole
sides, and the readings of a handle are that view.

* `Session.Books.wholeView` — what the two watchers hold at any moment;
* `Script.books_of_later` — the watchers of a book that was started;
* `Script.showsView_of_books` — the readings of their handle.
-/

namespace SlabBook

variable {α : Type}

namespace Session

variable {s next : Session α} {request : BookRequest} {watchers : BookWatchers}

theorem sideOrders_of_held {index : Nat} {watcher : Watcher α} {orders : List Order}
    (found : s.watchers[index]? = some watcher)
    (held : watcher.latest = .orders orders) : s.sideOrders index = orders := by
  simp only [sideOrders, found, Option.bind_some, held, Snapshot.orders?, Option.getD_some]

/-- The two watchers of a book watch the sides that were asked for. -/
structure Books (s : Session α) (request : BookRequest) (watchers : BookWatchers) : Prop where
  bids : ∃ watcher, s.watchers[watchers.bids]? = some watcher ∧ watcher.request =
    .side .bids request.bids request.market request.capacity request.options
  asks : ∃ watcher, s.watchers[watchers.asks]? = some watcher ∧ watcher.request =
    .side .asks request.asks request.market request.capacity request.options

theorem Moves.books (moves : Moves s next) (books : Books s request watchers) :
    Books next request watchers := by
  obtain ⟨bids, bids_there, bids_requested⟩ := books.bids
  obtain ⟨asks, asks_there, asks_requested⟩ := books.asks
  obtain ⟨bids_now, bids_found, bids_same⟩ := Moves.request moves bids_there
  obtain ⟨asks_now, asks_found, asks_same⟩ := Moves.request moves asks_there
  exact ⟨⟨bids_now, bids_found, bids_same.trans bids_requested⟩,
    ⟨asks_now, asks_found, asks_same.trans asks_requested⟩⟩

/-- Both sides of the view are whole sides of accounts that were supplied for their addresses. -/
structure WholeView (events : List Event) (request : BookRequest) (view : BookView) : Prop where
  bids : ∃ account, Supplied events request.bids account ∧
    WholeSide account .bids request.market request.capacity view.bids
  asks : ∃ account, Supplied events request.asks account ∧
    WholeSide account .asks request.market request.capacity view.asks

theorem Books.wholeView (books : Books s request watchers) (sourced : Sourced s) :
    WholeView s.events request (s.bookView watchers) := by
  obtain ⟨bids, bids_found, bids_requested⟩ := books.bids
  obtain ⟨asks, asks_found, asks_requested⟩ := books.asks
  obtain ⟨bid_orders, bid_account, bids_held, bids⟩ := sourced.whole bids_found bids_requested
  obtain ⟨ask_orders, ask_account, asks_held, asks⟩ := sourced.whole asks_found asks_requested
  constructor
  · rw [bookView, sideOrders_of_held bids_found bids_held]
    exact ⟨bid_account, bids⟩
  · rw [bookView, sideOrders_of_held asks_found asks_held]
    exact ⟨ask_account, asks⟩

end Session

namespace Script

open Session

variable {script : Script α} {handle : Nat} {request : BookRequest}

/-- The readings of a book whose watchers hold the view. -/
structure ShowsView (script : Script α) (handle : Nat) (request : BookRequest) (view : BookView) :
    Prop where
  bids : script.ShowsSide handle (some .bids) .bids request.bids request.market request.capacity
    view.bids
  asks : script.ShowsSide handle (some .asks) .asks request.asks request.market request.capacity
    view.asks
  whole : script.Reads handle none (.book view)
  book : script.Reads handle (some .book) (.book view)

theorem showsView_of_books {watchers : BookWatchers}
    (books : Books script.session request watchers) (sourced : Sourced script.session)
    (source : script.source? handle = some (.book watchers)) :
    script.ShowsView handle request (script.session.bookView watchers) := by
  obtain ⟨bids, bids_found, bids_requested⟩ := books.bids
  obtain ⟨asks, asks_found, asks_requested⟩ := books.asks
  obtain ⟨bid_orders, bids_held, shows_bids⟩ :=
    showsSide_of_watcher (some .bids) sourced source rfl bids_found bids_requested
  obtain ⟨ask_orders, asks_held, shows_asks⟩ :=
    showsSide_of_watcher (some .asks) sourced source rfl asks_found asks_requested
  have view : script.session.bookView watchers = ⟨bid_orders, ask_orders⟩ := by
    rw [bookView, sideOrders_of_held bids_found bids_held, sideOrders_of_held asks_found asks_held]
  rw [view]
  refine ⟨shows_bids, shows_asks, ?_, ?_⟩
  · exact view ▸ reads_of_source none source
  · exact view ▸ reads_of_source (some .book) source

/-- After the start of a book its handle names two watchers of its sides. -/
theorem books_of_later (reached : script.Reached) {name : String}
    (success : (script.step (.watchBook request)).2 = .ok (.handle handle name)) {later : Script α}
    (after : (script.step (.watchBook request)).1.Later later) :
    ∃ watchers, later.source? handle = some (.book watchers) ∧
      Books later.session request watchers ∧ Sourced later.session := by
  obtain ⟨watchers, between, bids, asks, known⟩ := watchBook_started success
  obtain ⟨watcher, there, requested⟩ := bids.watcher_found
  obtain ⟨started, found, same⟩ := Moves.request asks.moves there
  have books : Books (script.step (.watchBook request)).1.session request watchers :=
    ⟨⟨started, found, same.trans requested⟩, asks.watcher_found⟩
  exact ⟨watchers, after.source? known, Moves.books after.moves books,
    Moves.sourced after.moves (Moves.sourced (moves_step script _) reached.sourced)⟩

end Script
end SlabBook

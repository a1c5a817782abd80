import SlabBook.Proofs.Lives
import SlabBook.Proofs.Mirror
import SlabBook.Proofs.Precedence
import SlabBook.Proofs.Publication
import SlabBook.Proofs.Unread

/-!
# The code of a side

The first byte of an account is the code of what it holds.  Bids are shown from accounts with their own
code alone.  Asks are shown from accounts with theirs, and also from accounts whose code names no side:
such a stray account is read just as if it had the code of asks, and refused as bids.

* `Admits`, `ofDataType_eq_iff` — the codes with which an account is shown as a side;
* `decodeOrders_admits`, `decodeOrders_of_not_admits` — one account, shown or refused by its code;
* `decodeOrders_of_stray` — what becomes of a stray account;
* `Script.published_by_code` — all accounts that the watchers of a side have ever taken;
* `blank_shown_as_asks` — an account that was never written.
-/

namespace SlabBook

variable {α : Type}

namespace SideKind

/-- The code names no side. -/
def Stray (code : UInt8) : Prop := ∀ side : SideKind, code ≠ side.dataType

/-- An account with the code is shown as the side: the code is the side's own, or the side is asks and
the code is a stray one. -/
def Admits (kind : SideKind) (code : UInt8) : Prop :=
  code = kind.dataType ∨ kind = .asks ∧ Stray code

variable {kind : SideKind} {code : UInt8}

theorem stray_iff : Stray code ↔ code ≠ 5 ∧ code ≠ 6 := by
  constructor
  · intro stray
    exact ⟨stray .bids, stray .asks⟩
  · rintro ⟨no_bids, no_asks⟩ side
    cases side with
    | bids => exact no_bids
    | asks => exact no_asks

theorem admits_bids_iff : SideKind.bids.Admits code ↔ code = 5 := by
  simp [Admits, dataType]

theorem admits_asks_iff : SideKind.asks.Admits code ↔ code ≠ 5 := by
  rw [Admits, stray_iff, dataType]
  constructor
  · rintro (rfl | ⟨-, no_bids, -⟩)
    · decide
    · exact no_bids
  · intro no_bids
    by_cases own : code = 6
    · exact .inl own
    · exact .inr ⟨rfl, no_bids, own⟩

theorem ofDataType_eq_iff : ofDataType code = kind ↔ kind.Admits code := by
  unfold ofDataType
  cases kind with
  | bids =>
    rw [admits_bids_iff]
    split <;> simp_all
  | asks =>
    rw [admits_asks_iff]
    split <;> simp_all

end SideKind

open SideKind

variable {account : Account} {kind : SideKind} {market : Market} {capacity : Capacity} {code : UInt8}

/-! ## One account -/

namespace BookSide

/-- The kind of a side is decided by the account's first byte. -/
theorem code_of_decode {side : BookSide} (decoded : decode account market capacity = .ok side) :
    ∃ code, account.data[0]? = some code ∧ side.kind = .ofDataType code := by
  obtain ⟨-, flag, -, -, laid⟩ := laid_of_decode decoded
  obtain ⟨front, -⟩ := Bytes.laid_append_iff.1 laid
  have first : account.data.Holds (0 + 0) [side.header.metadata.dataType] :=
    front _ List.mem_cons_self
  exact ⟨_, first 0 (by simp), rfl⟩

theorem kind_of_code {side : BookSide} (decoded : decode account market capacity = .ok side)
    (coded : account.data[0]? = some code) : side.kind = .ofDataType code := by
  obtain ⟨found, coded_too, kind_eq⟩ := code_of_decode decoded
  obtain rfl := Option.some.inj (coded.symm.trans coded_too)
  exact kind_eq

/-- A side and the same side with another code of its kind are walked alike. -/
theorem sameFrame_withDataType {side : BookSide} (same : ofDataType code = side.kind) :
    side.SameFrame (side.withDataType code) where
  kind := same
  market := rfl
  slots := rfl
  rootNode := rfl
  leafCount := rfl
  bumpIndex := rfl

theorem orders_withDataType {side : BookSide} (same : ofDataType code = side.kind) :
    (side.withDataType code).orders = side.orders := by
  have alike : side.AlikeVisited (side.withDataType code) := by
    intro index node visits held
    exact ⟨node, held.2, Node.Alike.refl node⟩
  obtain ⟨found, ended⟩ := walk_alike (sameFrame_withDataType same) alike
  exact orders_eq_of_walk found ended

end BookSide

open BookSide

/-- What is shown as a side has a code that is admitted for it. -/
theorem decodeOrders_admits {orders : List Order}
    (success : decodeOrders account kind market capacity = .ok orders) :
    ∃ code, account.data[0]? = some code ∧ kind.Admits code := by
  obtain ⟨slots, side, -, -, decoded, wanted, -⟩ := decodeOrders_eq_ok_iff.1 success
  obtain ⟨code, coded, kind_eq⟩ := code_of_decode decoded
  exact ⟨code, coded, ofDataType_eq_iff.1 (kind_eq.symm.trans wanted)⟩

/-- An account of the right size is refused for its code, whatever its tree. -/
theorem decodeOrders_of_not_admits {slots : Nat} (slots_eq : capacity.slots = .ok slots)
    (size_eq : account.data.size = size slots) (coded : account.data[0]? = some code)
    (foreign : ¬ kind.Admits code) :
    decodeOrders account kind market capacity = .error (.sideMismatch kind (.ofDataType code)) := by
  obtain ⟨side, decoded⟩ := exists_decode market slots_eq size_eq
  have kind_eq := kind_of_code decoded coded
  have other : side.kind ≠ kind := by
    rw [kind_eq, Ne, ofDataType_eq_iff]
    exact foreign
  exact ((decodeOrders_judged decoded).mismatch_iff _ _).2 ⟨other, rfl, kind_eq.symm⟩

/-- A stray account is read as asks just as if it had their code. -/
theorem decodeOrders_of_stray (coded : account.data[0]? = some code) (stray : Stray code) :
    decodeOrders account .asks market capacity =
      decodeOrders (account.withDataType SideKind.asks.dataType) .asks market capacity := by
  cases outcome : BookSide.decode account market capacity with
  | error cause =>
    have refused : BookSide.decode (account.withDataType SideKind.asks.dataType) market capacity =
        .error cause := refused_of_size Bytes.size_withFirst outcome
    simp only [decodeOrders, outcome, refused]
  | ok side =>
    have asks : side.kind = .asks :=
      (kind_of_code outcome coded).trans (ofDataType_eq_iff.2 (.inr ⟨rfl, stray⟩))
    have retagged := decode_withDataType outcome SideKind.asks.dataType
    have same : ofDataType SideKind.asks.dataType = side.kind := asks.symm
    have kind_too : (side.withDataType SideKind.asks.dataType).kind = .asks := rfl
    simp only [decodeOrders, outcome, retagged, asks, kind_too, orders_withDataType same]

/-! ## Every account of a run -/

namespace Session

/-- Every account that a watcher of a side ever took has a code that is admitted for the side, and the
orders that the watcher holds are those of the account it took last. -/
structure TakesByCode (s : Session α) (index : Nat) (watcher : Watcher α) (kind : SideKind)
    (market : Market) (capacity : Capacity) (history : List (Occurrence PayloadError)) : Prop where
  lived : Lived s index watcher history
  admitted : ∀ account ∈ history.filterMap Occurrence.applied?,
    ∃ code, account.data[0]? = some code ∧ kind.Admits code
  held : ∃ account orders, (history.filterMap Occurrence.applied?).getLast? = some account ∧
    decodeOrders account kind market capacity = .ok orders ∧ watcher.latest = .orders orders

theorem decode_side_eq_ok_iff {value : Snapshot α} :
    (Format.side kind market capacity).decode account = .ok value ↔
      ∃ orders, value = .orders orders ∧ decodeOrders account kind market capacity = .ok orders := by
  simp only [Format.decode_side_eq_ok_iff, decodeOrders_eq_ok_iff]

theorem Lived.takesByCode {s : Session α} {index : Nat} {watcher : Watcher α}
    {history : List (Occurrence PayloadError)} (lived : Lived s index watcher history)
    (format : watcher.request.format = .side kind market capacity) :
    TakesByCode s index watcher kind market capacity history where
  lived := lived
  admitted := by
    intro account taken
    obtain ⟨value, decoded⟩ := lived.past.decodes_of_applied taken
    rw [format, decode_side_eq_ok_iff] at decoded
    obtain ⟨orders, -, success⟩ := decoded
    exact decodeOrders_admits success
  held := by
    obtain ⟨account, last, decoded⟩ := lived.past.latest
    rw [format, decode_side_eq_ok_iff] at decoded
    obtain ⟨orders, held, success⟩ := decoded
    exact ⟨account, orders, last, success, held⟩

end Session

namespace Script

open Session

/-- An account is shown as a side only with a code that is admitted for the side, and is refused with any
other one; a stray account is read as asks just as if it had their code.  So at every moment of every run
the watchers of a side have taken, at their start and since, no account with another code. -/
theorem published_by_code {script : Script α} (reached : script.Reached) :
    (∀ account kind market capacity,
      (∀ orders, decodeOrders account kind market capacity = .ok orders →
        ∃ code, account.data[0]? = some code ∧ kind.Admits code) ∧
      ∀ slots code, capacity.slots = .ok slots → account.data.size = size slots →
        account.data[0]? = some code → ¬ kind.Admits code →
          decodeOrders account kind market capacity =
            .error (.sideMismatch kind (.ofDataType code))) ∧
    (∀ account market capacity code, account.data[0]? = some code → Stray code →
      decodeOrders account .asks market capacity =
        decodeOrders (account.withDataType SideKind.asks.dataType) .asks market capacity) ∧
    ∀ now, script.Later now → ∀ index watcher kind market capacity,
      now.session.watchers[index]? = some watcher →
      watcher.request.format = .side kind market capacity →
        ∃ history, TakesByCode now.session index watcher kind market capacity history := by
  refine ⟨fun account kind market capacity => ⟨fun orders => decodeOrders_admits,
    fun slots code => decodeOrders_of_not_admits⟩,
    fun account market capacity code => decodeOrders_of_stray, ?_⟩
  intro now later index watcher kind market capacity found format
  have aimed : Aimed script.session := reached.invariant aimed_start fun _ _ move => move.aimed
  obtain ⟨history, lived⟩ :=
    Moves.allLived later.moves aimed reached.allLived index watcher found
  exact ⟨history, lived.takesByCode format⟩

/-- The side that a format reads. -/
def sideOf? : Format α → Option (SideKind × Market × Capacity)
  | .side kind market capacity => some (kind, market, capacity)
  | .own _ => none

theorem eq_side {format : Format α} (read : sideOf? format = some (kind, market, capacity)) :
    format = .side kind market capacity := by
  cases format with
  | own decode => cases read
  | side kind market capacity =>
    cases read
    rfl

/-- A book is watched whose asks are stored under a stray code. -/
def strayAsks : Script UInt8 :=
  (start (.start 0 1000 .confirmed) []).run
    [.change (.store (.fill 1) (oneOrder 5 1)), .change (.store (.fill 2) (oneOrder 9 1)),
      .watchBook oneOrderRequest]

/-- The same book when its bids have been notified of such an account too. -/
def strayBoth : Script UInt8 :=
  strayAsks.run [.change (.publish (.fill 1) (oneOrder 9 2))]

/-- The bids have taken accounts with their own code alone, and the asks show the stray account. -/
theorem published_by_code_strayBoth :
    strayAsks.Reached ∧ strayAsks.Later strayBoth ∧ Stray 9 ∧
      (∃ bids history, TakesByCode strayBoth.session 0 bids .bids ⟨6, 6, 100, 10⟩ (.whole 1) history ∧
        ∀ account ∈ history.filterMap Occurrence.applied?, account.data[0]? = some 5) ∧
      ∃ asks history, TakesByCode strayBoth.session 1 asks .asks ⟨6, 6, 100, 10⟩ (.whole 1) history ∧
        decodeOrders ((oneOrder 9 1).account (.fill 2)) .asks ⟨6, 6, 100, 10⟩ (.whole 1) =
          .ok (strayBoth.session.sideOrders 1) := by
  have reached : strayAsks.Reached := ⟨0, 1000, .confirmed, [], _, rfl⟩
  have later : strayAsks.Later strayBoth := .of_run _ _
  have stray : Stray 9 := stray_iff.2 (by decide)
  obtain ⟨-, -, taken⟩ := published_by_code reached
  have bids_side : (strayBoth.session.watchers[0]?).bind (sideOf? ·.request.format) =
      some (.bids, ⟨6, 6, 100, 10⟩, .whole 1) := by
    decide +kernel
  have asks_side : (strayBoth.session.watchers[1]?).bind (sideOf? ·.request.format) =
      some (.asks, ⟨6, 6, 100, 10⟩, .whole 1) := by
    decide +kernel
  have shown : decodeOrders ((oneOrder 9 1).account (.fill 2)) .asks ⟨6, 6, 100, 10⟩ (.whole 1) =
      .ok (strayBoth.session.sideOrders 1) := by
    decide +kernel
  obtain ⟨bids, bids_found, bids_format⟩ := Option.bind_eq_some_iff.1 bids_side
  obtain ⟨asks, asks_found, asks_format⟩ := Option.bind_eq_some_iff.1 asks_side
  obtain ⟨before, bids_taken⟩ := taken strayBoth later 0 bids _ _ _ bids_found (eq_side bids_format)
  obtain ⟨since, asks_taken⟩ := taken strayBoth later 1 asks _ _ _ asks_found (eq_side asks_format)
  refine ⟨reached, later, stray, ⟨bids, before, bids_taken, ?_⟩, asks, since, asks_taken, shown⟩
  intro account member
  obtain ⟨code, coded, admits⟩ := bids_taken.admitted account member
  obtain rfl := admits_bids_iff.1 admits
  exact coded

/-- The orders that an answer shows of one side. -/
def shown? : Except Fault (Answer α) → Option (List Order)
  | .ok (.value (.snapshot (.orders orders))) => some orders
  | _ => none

theorem reads_of_shown? {script : Script α} {handle : Nat} {part : Option Part} {orders : List Order}
    (shown : shown? (script.step (.latest handle part)).2 = some orders) :
    script.Reads handle part (.snapshot (.orders orders)) := by
  unfold shown? at shown
  split at shown
  · rename_i answered
    cases shown
    exact answered
  · cases shown

/-- An account of one slot that was never written. -/
def blank : Stored := ⟨(List.replicate 128 0).toArray, some 1⟩

/-- A blank account is watched as asks. -/
def blankAsks : Script UInt8 :=
  (start (.start 0 1000 .confirmed) []).run
    [.change (.store (.fill 1) blank),
      .watch (.side .asks (.fill 1) ⟨6, 6, 100, 10⟩ (.whole 1) {})]

/-- Not every account that is shown as a side has the side's code: a blank one is shown as asks without
orders, also by a watcher. -/
theorem blank_shown_as_asks :
    blankAsks.Reads 0 none (.snapshot (.orders [])) ∧
      ¬ ∀ account kind market capacity orders,
        decodeOrders account kind market capacity = .ok orders →
          account.data[0]? = some kind.dataType := by
  refine ⟨reads_of_shown? (by decide +kernel), fun by_code => ?_⟩
  have shown : decodeOrders (blank.account (.fill 1)) .asks ⟨6, 6, 100, 10⟩ (.whole 1) = .ok [] := by
    decide +kernel
  have zero : (blank.account (.fill 1)).data[0]? = some 0 := by decide +kernel
  have coded := by_code _ _ _ _ _ shown
  rw [zero] at coded
  exact absurd coded (by decide)

end Script
end SlabBook

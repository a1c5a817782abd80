import SlabBook.Proofs.NumberGrammar
import SlabBook.Proofs.Requests
import SlabBook.Proofs.Settings
import SlabBook.Proofs.Views

/-!
# The book that is served

Whoever gets the book of a session is served the first orders of what its handle shows at that moment,
down to a depth that the query may name, and how many orders there are.  A depth that is no whole number
from 1 to 1000, or is given more than once, is refused, and no order is served then.

* `Http.depth_eq_ok_iff`, `Http.asksDepth_iff` — the depths that a query can ask for;
* `Http.Gets.serves` — the answer of a server to whoever gets the book;
* `Script.book_serves` — the answers of a session, between its steps and in the middle of one.
-/

namespace SlabBook

variable {α : Type}

namespace Http

/-- The depth that a query asks for: 50 where it names none, and otherwise the number of a text that is
given once, if that number is whole and lies from 1 to 1000. -/
inductive AsksDepth (query : String) : Nat → Prop
  | unnamed (absent : Query.values query "depth" = []) : AsksDepth query 50
  | named {text : String} {depth : Nat} (once : Query.values query "depth" = [text])
      (number : (Literal.number text).whole? = some (depth : Int)) (least : 1 ≤ depth)
      (greatest : depth ≤ 1000) : AsksDepth query depth

/-- A response with the first orders of each side of the view and the lengths of both, down to the depth
that the query asks for, or with what is wrong with it. -/
structure Serves (view : BookView) (query : String) (response : Response) : Prop where
  served : ∀ depth, AsksDepth query depth → response.status = 200 ∧
    response.body = .book ((view.bids.take depth).map Order.record)
      ((view.asks.take depth).map Order.record) view.bids.length view.asks.length
  refused : (∀ depth, ¬ AsksDepth query depth) → response.status = 400 ∧
    ∃ issues, response.body = .invalidQuery issues

variable {query : String}

theorem depth_eq_ok_iff {value : Int} :
    Server.depth query = .ok value ↔ ∃ depth : Nat, value = depth ∧ AsksDepth query depth := by
  constructor
  · intro accepted
    unfold Server.depth at accepted
    split at accepted
    next absent =>
      cases accepted
      exact ⟨50, rfl, .unnamed absent⟩
    next text once =>
      obtain ⟨number, least, greatest⟩ := Range.check_eq_ok_iff.1 accepted
      simp only [Server.depthRange] at least greatest
      obtain ⟨depth, rfl⟩ := Int.eq_ofNat_of_zero_le (by omega : 0 ≤ value)
      exact ⟨depth, rfl, .named once number (by omega) (by omega)⟩
    next => cases accepted
  · rintro ⟨depth, rfl, asks⟩
    unfold Server.depth
    cases asks with
    | unnamed absent =>
      rw [absent]
      rfl
    | named once number least greatest =>
      rw [once]
      refine Range.check_eq_ok_iff.2 ⟨number, ?_, ?_⟩
      · exact Int.ofNat_le.2 least
      · exact Int.ofNat_le.2 greatest

/-- A depth is named in any notation: what counts is the number that its text spells. -/
theorem asksDepth_iff {depth : Nat} :
    AsksDepth query depth ↔
      (Query.values query "depth" = [] ∧ depth = 50) ∨
        ∃ text x, Query.values query "depth" = [text] ∧
          Literal.Spells (Text.trim text.toList) x ∧ x.whole? = some (depth : Int) ∧ 1 ≤ depth ∧
          depth ≤ 1000 := by
  constructor
  · rintro (absent | ⟨once, number, least, greatest⟩)
    · exact Or.inl ⟨absent, rfl⟩
    · refine Or.inr ⟨_, _, once, Literal.spells_number ?_, number, least, greatest⟩
      intro none_read
      rw [none_read] at number
      cases number
  · rintro (⟨absent, rfl⟩ | ⟨text, x, once, spells, number, least, greatest⟩)
    · exact .unnamed absent
    · rw [← Literal.number_of_spells spells] at number
      exact .named once number least greatest

/-- A decimal whose amount is a depth asks for it, wherever its point and whatever its power of ten. -/
theorem AsksDepth.of_decimal {text : String} {cs : List Char} {value depth : Nat} {power : Int}
    (once : Query.values query "depth" = [text]) (trimmed : Text.trim text.toList = cs)
    (unsigned : Literal.IsDecimal cs value power) (amount : (value : ℚ) * 10 ^ power = depth)
    (least : 1 ≤ depth) (greatest : depth ≤ 1000) : AsksDepth query depth := by
  have spells := Literal.Spells.decimal .none unsigned
  rw [List.nil_append, ← trimmed] at spells
  have whole : (Binary64.ofDecimal false value power).whole? = some (depth : Int) :=
    Binary64.whole?_ofDecimal amount (by omega)
  exact asksDepth_iff.2 (Or.inr ⟨text, _, once, spells, whole, least, greatest⟩)

/-- So do digits behind the name of their radix. -/
theorem AsksDepth.of_radix {text : String} {mark : Char} {radix depth : Nat} {cs : List Char}
    (once : Query.values query "depth" = [text])
    (trimmed : Text.trim text.toList = '0' :: mark :: cs)
    (named : (mark, radix) ∈ Literal.radixes) (digits : Literal.IsDigits radix cs depth)
    (least : 1 ≤ depth) (greatest : depth ≤ 1000) : AsksDepth query depth := by
  have spells := Literal.Spells.radix named digits
  rw [← trimmed] at spells
  exact asksDepth_iff.2
    (Or.inr ⟨text, _, once, spells, Binary64.whole?_ofNat (by omega), least, greatest⟩)

/-- What is read of the book serves the view. -/
theorem serves_orders (report : LivenessReport) (view : BookView) (origins : List String)
    (query : String) : Serves view query (Server.orders ⟨report, some view, origins⟩ query) := by
  unfold Server.orders
  cases found : Server.depth query with
  | error issues =>
    refine ⟨fun depth asks => ?_, fun _ => ⟨rfl, issues, rfl⟩⟩
    cases found.symm.trans (depth_eq_ok_iff.2 ⟨depth, rfl, asks⟩)
  | ok value =>
    obtain ⟨depth, rfl, asks⟩ := depth_eq_ok_iff.1 found
    refine ⟨fun other asks_too => ?_, fun none_asked => absurd asks (none_asked depth)⟩
    obtain rfl : depth = other := Int.ofNat_inj.1
      (Except.ok.inj (found.symm.trans (depth_eq_ok_iff.2 ⟨other, rfl, asks_too⟩)))
    exact ⟨rfl, rfl⟩

theorem Gets.serves {request : Request} (gets : Gets request "api/v1/book" query)
    (report : LivenessReport) (view : BookView) (origins : List String) :
    ∃ response, Server.respond ⟨report, some view, origins⟩ request = .ok response ∧
      Serves view query response := by
  let server : Server := ⟨report, some view, origins⟩
  have read : server.read? "api/v1/book" query = some (server.orders query) := by
    simp [Server.read?]
  have plain : (server.orders query).allowHeaders = none := by
    unfold Server.orders
    cases Server.depth query with
    | error issues => rfl
    | ok depth => rfl
  -- an allowed origin is a header, and neither status nor body
  obtain ⟨served, refused⟩ := serves_orders report view origins query
  exact ⟨_, gets.respond read plain, served, refused⟩

end Http

namespace Script

open Session

/-- Whoever gets the book of a session is served the first orders of what is shown, at every moment after
the start of the book: between two steps, which is what the readings of the handle show then, and in the
middle of one, which is a moment between its moves.  Every query of plain characters gets it. -/
theorem book_serves {script : Script α} (reached : script.Reached) {request : BookRequest}
    {handle : Nat} {name : String}
    (success : (script.step (.watchBook request)).2 = .ok (.handle handle name)) {later : Script α}
    (after : (script.step (.watchBook request)).1.Later later) :
    (∃ view, later.ShowsView handle request view ∧
      ∀ asked query, Http.Gets asked "api/v1/book" query → ∃ response,
        later.step (.request handle asked) = (later, .ok (.response (.ok response))) ∧
          Http.Serves view query response) ∧
    (∃ watchers, later.source? handle = some (.book watchers) ∧
      ∀ moment, Moves later.session moment →
        WholeView moment.events request (moment.bookView watchers) ∧
          ∀ report origins asked query, Http.Gets asked "api/v1/book" query → ∃ response,
            Http.Server.respond ⟨report, some (moment.bookView watchers), origins⟩ asked =
              .ok response ∧ Http.Serves (moment.bookView watchers) query response) ∧
    (∀ step : Step α, Moves later.session (later.step step).1.session) ∧
    ∀ query : String, (∀ c ∈ query.toList, Url.isPlainInQuery c = true) →
      Http.Gets ⟨"GET", "/api/v1/book?" ++ query, []⟩ "api/v1/book" query := by
  obtain ⟨watchers, source, books, sourced⟩ := books_of_later reached success after
  refine ⟨⟨later.session.bookView watchers, showsView_of_books books sourced source, ?_⟩,
    ⟨watchers, source, fun moment moves => ⟨?_, ?_⟩⟩, moves_step later,
    fun query plain => Http.gets_book plain rfl⟩
  · intro asked query gets
    obtain ⟨response, answered, serves⟩ := gets.serves later.report _ later.origins
    refine ⟨response, ?_, serves⟩
    simp only [step, readOnly, respond, source, answered]
  · exact (Moves.books moves books).wholeView (Moves.sourced moves sourced)
  · intro report origins asked query gets
    exact gets.serves report _ origins

/-- The book of one order each, once its asks were disposed. -/
def oneOrderServed : Script String :=
  (oneOrderEach.step (.watchBook oneOrderRequest)).1.run [.dispose 0 (some .asks)]

/-- A depth of two in hexadecimal is served, and a depth that is given twice is refused. -/
theorem book_serves_oneOrderServed :
    oneOrderEach.Reached ∧
      (oneOrderEach.step (.watchBook oneOrderRequest)).2 = .ok (.handle 0 "orderbook") ∧
      (oneOrderEach.step (.watchBook oneOrderRequest)).1.Later oneOrderServed ∧
      ∃ view served refused, oneOrderServed.ShowsView 0 oneOrderRequest view ∧
        oneOrderServed.step (.request 0 ⟨"GET", "/api/v1/book?depth=0x2", []⟩) =
          (oneOrderServed, .ok (.response (.ok served))) ∧
        served.status = 200 ∧
        served.body = .book ((view.bids.take 2).map Order.record) ((view.asks.take 2).map Order.record)
          view.bids.length view.asks.length ∧
        oneOrderServed.step (.request 0 ⟨"GET", "/api/v1/book?depth=1&depth=2", []⟩) =
          (oneOrderServed, .ok (.response (.ok refused))) ∧
        refused.status = 400 := by
  have reached : oneOrderEach.Reached := ⟨0, 1000, .confirmed, [], _, rfl⟩
  have success : (oneOrderEach.step (.watchBook oneOrderRequest)).2 = .ok (.handle 0 "orderbook") :=
    opened?_eq_some_iff.1 (by decide +kernel)
  have after : (oneOrderEach.step (.watchBook oneOrderRequest)).1.Later oneOrderServed :=
    .of_run _ _
  have once : Http.Query.values "depth=0x2" "depth" = ["0x2"] := by decide +kernel
  have trimmed : Text.trim "0x2".toList = '0' :: 'x' :: ['2'] := by decide +kernel
  have named : ('x', 16) ∈ Literal.radixes := by decide
  have two : Literal.IsDigits 16 ['2'] 2 := (Literal.digits?_eq_some_iff (by decide)).1 rfl
  have asks_two : Http.AsksDepth "depth=0x2" 2 :=
    .of_radix once trimmed named two (by decide) (by decide)
  have asks_none (depth : Nat) : ¬ Http.AsksDepth "depth=1&depth=2" depth := by
    intro asks
    have refused : Http.Server.depth "depth=1&depth=2" = .error [.notANumber] := by decide +kernel
    cases refused.symm.trans (Http.depth_eq_ok_iff.2 ⟨depth, rfl, asks⟩)
  obtain ⟨⟨view, shows, answers⟩, -⟩ := book_serves reached success after
  obtain ⟨served, answered, serves⟩ :=
    answers ⟨"GET", "/api/v1/book?depth=0x2", []⟩ "depth=0x2"
      ⟨rfl, by decide, ⟨_, rfl, by decide +kernel, by decide +kernel⟩, rfl⟩
  obtain ⟨refused, answered_too, serves_none⟩ :=
    answers ⟨"GET", "/api/v1/book?depth=1&depth=2", []⟩ "depth=1&depth=2"
      ⟨rfl, by decide, ⟨_, rfl, by decide +kernel, by decide +kernel⟩, rfl⟩
  obtain ⟨good, body⟩ := serves.served 2 asks_two
  exact ⟨reached, success, after, view, served, refused, shows, answered, good, body, answered_too,
    (serves_none.refused asks_none).1⟩

end Script
end SlabBook

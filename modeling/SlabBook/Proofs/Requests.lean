import Mathlib.Data.List.TakeWhile
import SlabBook.Http.Server

/-!
# Requests for a resource

A request that gets a resource is answered with what is read of that resource, and the headers of the
answer can be written.  How a target names its resource and its query is a matter of the target alone.

* `Gets.respond` — the whole answer to whoever gets a resource;
* `Url.ofText?_bookLine`, `gets_book` — a query without characters to escape comes through as it is.
-/

namespace SlabBook

namespace Http

variable {request : Request} {resource query : String} {server : Server}

/-- The request gets a resource with a query, and its origin can be written in a header. -/
structure Gets (request : Request) (resource query : String) : Prop where
  method : request.method = "GET"
  named : request.url ≠ ""
  target : ∃ target, Target.ofText? request.url = some target ∧ target.resource = some resource ∧
    target.query = query
  origin : (request.header? "origin").all Header.isValue

theorem isValue_filter {value : Option String} (admits : String → Bool)
    (written : value.all Header.isValue = true) :
    (value.filter admits).all Header.isValue = true := by
  cases value with
  | none => rfl
  | some text =>
    simp only [Option.filter]
    split
    · exact written
    · rfl

theorem isValue_allowOrigin (server : Server)
    (written : (request.header? "origin").all Header.isValue = true) :
    (server.allowOrigin request).all Header.isValue = true := by
  unfold Server.allowOrigin
  split
  · decide
  · exact isValue_filter _ (isValue_filter _ written)

/-- A resource that sets no headers of its own from the request is sent as it is read. -/
theorem Gets.respond {answer : Response} (gets : Gets request resource query)
    (served : server.read? resource query = some answer) (plain : answer.allowHeaders = none) :
    server.respond request = .ok { answer with allowOrigin := server.allowOrigin request } := by
  obtain ⟨target, read, named, rfl⟩ := gets.target
  have method : Request.isMethod request.method = true := by
    rw [gets.method]
    decide +kernel
  have verb : request.verb = "GET" := by
    rw [Request.verb, gets.method]
    decide +kernel
  have dispatched : server.dispatch request target.line resource target.query = answer := by
    simp [Server.dispatch, verb, Server.reads, served]
  simp only [Server.respond, method, Bool.not_true, Bool.false_eq_true, if_false, if_neg gets.named,
    read, Server.answer, named, dispatched, Response.sent, isValue_allowOrigin server gets.origin,
    plain, Option.all_none]

end Http

/-! ## Queries that come through as they are -/

namespace Url

/-- A character that stands for itself in the query of a server. -/
def isPlainInQuery (c : Char) : Bool :=
  0x20 < c.toNat && c.toNat < 0x7f && !escapedInQuery true c

theorem isPlainInQuery_iff {c : Char} : isPlainInQuery c = true ↔
    0x20 < c.toNat ∧ c.toNat < 0x7f ∧ escapedInQuery true c = false := by
  simp [isPlainInQuery, and_assoc]

theorem strip_of_visible {cs : List Char} (visible : ∀ c ∈ cs, 0x20 < c.toNat) : strip cs = cs := by
  have kept {ds : List Char} (visible : ∀ c ∈ ds, 0x20 < c.toNat) :
      ds.dropWhile (fun c => decide (c.toNat ≤ 0x20)) = ds := by
    cases ds with
    | nil => rfl
    | cons d rest =>
      have shown := visible d List.mem_cons_self
      exact List.dropWhile_cons_of_neg (by simpa using shown)
  unfold strip
  simp only [kept visible]
  rw [kept fun c member => visible c (List.mem_reverse.1 member), List.reverse_reverse]
  refine List.filter_eq_self.2 fun c member => ?_
  have shown := visible c member
  rw [decide_eq_true_eq]
  refine ⟨?_, ?_, ?_⟩
  all_goals
    rintro rfl
    exact absurd shown (by decide)

end Url

theorem Percent.encode_of_plain {chosen : Char → Bool} {cs : List Char}
    (plain : ∀ c ∈ cs, 0x20 ≤ c.toNat ∧ c.toNat < 0x7f ∧ chosen c = false) :
    encode chosen cs = cs := by
  unfold encode
  induction cs with
  | nil => rfl
  | cons c rest ih =>
    obtain ⟨above, below, kept⟩ := plain c List.mem_cons_self
    have stays : ¬ (c.toNat < 0x20 ∨ 0x7f ≤ c.toNat ∨ chosen c = true) := by
      rw [kept]
      simp only [Bool.false_eq_true, or_false]
      omega
    rw [List.flatMap_cons, if_neg stays, ih fun d member => plain d (List.mem_cons_of_mem c member)]
    rfl

namespace Url

/-- The path of the book and a query. -/
def bookLine (query : List Char) : List Char := "/api/v1/book?".toList ++ query

theorem query?_bookLine {query : List Char} (plain : ∀ c ∈ query, isPlainInQuery c = true) :
    query? "http" (bookLine query) = some query := by
  have whole : query.takeWhile (· ≠ '#') = query := by
    refine List.takeWhile_eq_self_iff.2 fun c member => ?_
    rw [decide_eq_true_eq]
    rintro rfl
    exact absurd (plain _ member) (by decide)
  have encoded : Percent.encode (escapedInQuery true) query = query := by
    refine Percent.encode_of_plain fun c member => ?_
    obtain ⟨above, below, kept⟩ := isPlainInQuery_iff.1 (plain c member)
    exact ⟨Nat.le_of_lt above, below, kept⟩
  show some (Percent.encode (escapedInQuery true) (query.takeWhile (· ≠ '#'))) = some query
  rw [whole, encoded]

theorem ofText?_bookLine {query : List Char} (plain : ∀ c ∈ query, isPlainInQuery c = true) :
    ofText? (some "http") (String.ofList (bookLine query)) =
      some ⟨"http", .segments ["api".toList, "v1".toList, "book".toList], some query⟩ := by
  have front_visible : "/api/v1/book?".toList.all (fun c => decide (0x20 < c.toNat)) = true := rfl
  have visible : ∀ c ∈ bookLine query, 0x20 < c.toNat := by
    intro c member
    rcases List.mem_append.1 member with front | behind
    · exact of_decide_eq_true (List.all_eq_true.1 front_visible c front)
    · exact (isPlainInQuery_iff.1 (plain c behind)).1
  rw [ofText?, String.toList_ofList, strip_of_visible visible]
  -- a slash begins no scheme, and no second one follows it
  show some (ofPath "http" (bookLine query)) = _
  rw [ofPath, query?_bookLine plain]
  rfl

end Url

namespace Http

theorem target_bookLine {query : List Char} (plain : ∀ c ∈ query, Url.isPlainInQuery c = true) :
    ∃ target, Target.ofText? (String.ofList (Url.bookLine query)) = some target ∧
      target.resource = some "api/v1/book" ∧ target.query = String.ofList query := by
  have single : ['/', '/'].isPrefixOf (String.ofList (Url.bookLine query)).toList = false := by
    rw [String.toList_ofList]
    rfl
  have read : Target.ofText? (String.ofList (Url.bookLine query)) = some (.ofLine (Url.requestLine
      ⟨"http", .segments ["api".toList, "v1".toList, "book".toList], some query⟩)) := by
    simp only [Target.ofText?, single, Bool.false_eq_true, if_false, Target.scheme,
      Url.ofText?_bookLine plain, Option.map_some]
  refine ⟨_, read, ?_⟩
  -- without a query the question mark is not written
  cases query with
  | nil => exact ⟨rfl, rfl⟩
  | cons c rest => exact ⟨rfl, rfl⟩

/-- Whoever writes a query of plain characters behind the path of the book gets the book with it. -/
theorem gets_book {query : String} {headers : List (String × String)}
    (plain : ∀ c ∈ query.toList, Url.isPlainInQuery c = true)
    (origin : (Request.header? ⟨"GET", "/api/v1/book?" ++ query, headers⟩ "origin").all
      Header.isValue) :
    Gets ⟨"GET", "/api/v1/book?" ++ query, headers⟩ "api/v1/book" query := by
  have line : ("/api/v1/book?" ++ query).toList = Url.bookLine query.toList := String.toList_append
  have named : "/api/v1/book?" ++ query ≠ "" := by
    intro empty
    cases line.symm.trans (congrArg String.toList empty)
  have target := target_bookLine plain
  rw [← line, String.ofList_toList, String.ofList_toList] at target
  exact ⟨rfl, named, target, origin⟩

end Http
end SlabBook

import Mathlib.Data.List.Nodup
import SlabBook.Live.Liveness
import SlabBook.Proofs.History

/-!
# What a registry records

A registry of feeds tells of the calls that were made on it and of nothing else.  A feed is in it if
one of the calls registered it and none after that dropped it; it was last active when it was last
pinged since, and its id counts the registrations up to its own.

* `Liveness.tells_call`, `Liveness.tells_after` — what a call and a whole history preserve;
* `Liveness.report_exact` — what this comes to for the report.
-/

namespace SlabBook

/-- The feed that a status is of. -/
def FeedStatus.feed (status : FeedStatus) : Feed :=
  ⟨status.id, status.name, status.registeredAt, status.lastActiveAt⟩

/-- The status of the feed with an id. -/
def LivenessReport.status? (report : LivenessReport) (id : Nat) : Option FeedStatus :=
  report.feeds.find? fun status => status.id = id

namespace Liveness

/-- A call on a registry.  A registration and a ping take the time from a clock, which may show
anything. -/
inductive Call where
  | register (name : String) (now : Int)
  | ping (id : Nat) (now : Int)
  | drop (id : Nat)
  deriving DecidableEq, Repr

namespace Call

def registers : Call → Bool
  | .register _ _ => true
  | _ => false

/-- The time of a ping of the feed. -/
def pinged? (id : Nat) : Call → Option Int
  | .ping pinged now => if pinged = id then some now else none
  | _ => none

end Call

def call (registry : Liveness) : Call → Liveness
  | .register name now => registry.register name now
  | .ping id now => registry.ping id now
  | .drop id => registry.drop id

def after (registry : Liveness) (calls : List Call) : Liveness := calls.foldl call registry

/-- The id of the feed that a call is about; a registration is about the feed that it makes. -/
def subject (registry : Liveness) : Call → Nat
  | .register _ _ => registry.nextId
  | .ping id _ => id
  | .drop id => id

/-- The feed with an id. -/
def feed? (registry : Liveness) (id : Nat) : Option Feed :=
  registry.feeds.find? fun feed => feed.id = id

def registrations (calls : List Call) : Nat := calls.countP Call.registers

/-- The feed as the calls tell of it. -/
def Recorded (calls : List Call) (feed : Feed) : Prop :=
  ∃ earlier later, calls = earlier ++ .register feed.name feed.registeredAt :: later ∧
    feed.id = registrations earlier + 1 ∧ .drop feed.id ∉ later ∧
    feed.lastActiveAt = (later.filterMap (Call.pinged? feed.id)).getLast?

variable {registry : Liveness} {calls : List Call} {feed : Feed}

/-! ## One feed -/

theorem feed?_register (name : String) (now : Int) (id : Nat) :
    (registry.register name now).feed? id =
      (registry.feed? id).or
        (if registry.nextId = id then some ⟨registry.nextId, name, now, none⟩ else none) := by
  simp only [feed?, register, List.find?_append, List.find?_singleton, decide_eq_true_eq]

theorem feed?_ping (id : Nat) (now : Int) (queried : Nat) :
    (registry.ping id now).feed? queried = (registry.feed? queried).map fun feed =>
      if feed.id = id then { feed with lastActiveAt := some now } else feed := by
  simp only [feed?, ping, List.find?_map]
  congr 2
  funext feed
  simp only [Function.comp_apply]
  split <;> rfl

theorem feed?_drop (id queried : Nat) :
    (registry.drop id).feed? queried = if id = queried then none else registry.feed? queried := by
  simp only [feed?, drop, List.find?_filter]
  split
  · rename_i same
    rw [List.find?_eq_none]
    intro feed _ both
    simp [same] at both
  · rename_i different
    congr 1
    funext feed
    by_cases found : feed.id = queried
    · simp [found, Ne.symm different]
    · simp [found]

theorem id_of_feed? {id : Nat} (found : registry.feed? id = some feed) : feed.id = id := by
  simpa using List.find?_some found

/-- Where no two feeds have the same id, each one is found under its own. -/
theorem feed?_of_mem (distinct : (registry.feeds.map (·.id)).Nodup)
    (member : feed ∈ registry.feeds) : registry.feed? feed.id = some feed := by
  cases found : registry.feed? feed.id with
  | none => simpa using List.find?_eq_none.1 found feed member
  | some other =>
    have there : other ∈ registry.feeds := List.mem_of_find?_eq_some found
    rw [List.inj_on_of_nodup_map distinct there member (id_of_feed? found)]

/-- A call is about one feed only. -/
theorem feed?_call_of_ne (call : Call) {other : Nat} (different : other ≠ registry.subject call) :
    (registry.call call).feed? other = registry.feed? other := by
  cases call with
  | register name now =>
    have fresh : registry.nextId ≠ other := Ne.symm different
    rw [Liveness.call, feed?_register, if_neg fresh, Option.or_none]
  | ping id now =>
    rw [Liveness.call, feed?_ping]
    cases found : registry.feed? other with
    | none => rfl
    | some feed => rw [Option.map_some, if_neg (id_of_feed? found ▸ different)]
  | drop id =>
    have kept : id ≠ other := Ne.symm different
    rw [Liveness.call, feed?_drop, if_neg kept]

theorem status?_report (now : Int) (id : Nat) :
    (registry.report now).status? id =
      (registry.feed? id).map fun feed => feed.status registry.allowedSilence now := by
  simp only [LivenessReport.status?, report, List.find?_map, feed?]
  rfl

@[simp]
theorem allowedSilence_call (call : Call) :
    (registry.call call).allowedSilence = registry.allowedSilence := by
  cases call <;> rfl

theorem allowedSilence_after (calls : List Call) :
    (registry.after calls).allowedSilence = registry.allowedSilence := by
  induction calls generalizing registry with
  | nil => rfl
  | cons call rest ih => exact ih.trans (allowedSilence_call call)

theorem after_append (earlier later : List Call) :
    registry.after (earlier ++ later) = (registry.after earlier).after later :=
  List.foldl_append

theorem after_concat (calls : List Call) (call : Call) :
    registry.after (calls ++ [call]) = (registry.after calls).call call :=
  after_append calls [call]

/-! ## Ids that are gone -/

/-- The id was given to a feed that is not there any more. -/
structure Gone (registry : Liveness) (id : Nat) : Prop where
  given : id < registry.nextId
  absent : registry.feed? id = none

theorem nextId_le_call (call : Call) : registry.nextId ≤ (registry.call call).nextId := by
  cases call with
  | register name now => exact Nat.le_succ _
  | ping id now => exact Nat.le_refl _
  | drop id => exact Nat.le_refl _

theorem nextId_le_after (calls : List Call) :
    registry.nextId ≤ (registry.after calls).nextId := by
  induction calls generalizing registry with
  | nil => exact Nat.le_refl _
  | cons call rest ih => exact Nat.le_trans (nextId_le_call call) ih

/-- What is gone does not come back. -/
theorem Gone.call {id : Nat} (gone : registry.Gone id) (call : Call) :
    (registry.call call).Gone id := by
  refine ⟨Nat.lt_of_lt_of_le gone.given (nextId_le_call call), ?_⟩
  by_cases same : id = registry.subject call
  · cases call with
    | register name now => exact absurd gone.given (same ▸ Nat.lt_irrefl _)
    | ping pinged now => rw [Liveness.call, feed?_ping, gone.absent, Option.map_none]
    | drop dropped =>
      have dropped_same : dropped = id := same.symm
      rw [Liveness.call, feed?_drop, if_pos dropped_same]
  · rw [feed?_call_of_ne call same, gone.absent]

theorem Gone.after {id : Nat} (gone : registry.Gone id) (calls : List Call) :
    (registry.after calls).Gone id := by
  induction calls generalizing registry with
  | nil => exact gone
  | cons call rest ih => exact ih (gone.call call)

/-! ## One call more -/

theorem registrations_concat (calls : List Call) (call : Call) :
    registrations (calls ++ [call]) = registrations calls + if call.registers then 1 else 0 := by
  simp [registrations, List.countP_append, List.countP_singleton]

theorem recorded_concat_register (name : String) (now : Int) :
    Recorded (calls ++ [.register name now]) feed ↔
      Recorded calls feed ∨ feed = ⟨registrations calls + 1, name, now, none⟩ := by
  constructor
  · rintro ⟨earlier, later, cut, id, kept, active⟩
    rcases Watch.cut_concat cut with ⟨rfl, last⟩ | ⟨rest, rfl⟩
    · obtain ⟨rfl, rfl⟩ : name = feed.name ∧ now = feed.registeredAt := by simpa using last
      obtain rfl : later = [] := by simpa using cut
      right
      cases feed
      simp_all
    · obtain rfl : rest ++ [.register name now] = later := by simpa using cut
      refine .inl ⟨earlier, rest, rfl, id, fun dropped => kept (by simp [dropped]), ?_⟩
      simpa [Call.pinged?] using active
  · rintro (⟨earlier, later, rfl, id, kept, active⟩ | rfl)
    · exact ⟨earlier, later ++ [.register name now], by simp, id, by simpa using kept,
        by simpa [Call.pinged?] using active⟩
    · exact ⟨calls, [], rfl, rfl, List.not_mem_nil, rfl⟩

theorem recorded_concat_ping (id : Nat) (now : Int) :
    Recorded (calls ++ [.ping id now]) feed ↔ ∃ before, Recorded calls before ∧
      (if before.id = id then { before with lastActiveAt := some now } else before) = feed := by
  have last (later : List Call) (queried : Nat) :
      ((later ++ [Call.ping id now]).filterMap (Call.pinged? queried)).getLast? =
        if queried = id then some now else (later.filterMap (Call.pinged? queried)).getLast? := by
    have ping : Call.pinged? queried (.ping id now) = if id = queried then some now else none := rfl
    rw [List.filterMap_append]
    by_cases same : queried = id
    · rw [if_pos same.symm] at ping
      rw [List.filterMap_cons_some ping, if_pos same, List.filterMap_nil, List.getLast?_concat]
    · rw [if_neg (Ne.symm same)] at ping
      rw [List.filterMap_cons_none ping, if_neg same, List.filterMap_nil, List.append_nil]
  constructor
  · rintro ⟨earlier, later, cut, number, kept, active⟩
    rcases Watch.cut_concat cut with ⟨_, other⟩ | ⟨rest, rfl⟩
    · cases other
    obtain rfl : rest ++ [.ping id now] = later := by simpa using cut
    rw [last] at active
    refine ⟨{ feed with lastActiveAt := (rest.filterMap (Call.pinged? feed.id)).getLast? },
      ⟨earlier, rest, rfl, number, fun dropped => kept (by simp [dropped]), rfl⟩, ?_⟩
    rcases feed with ⟨queried, name, registeredAt, lastActiveAt⟩
    dsimp only at active ⊢
    split at active <;> simp_all
  · rintro ⟨before, ⟨earlier, later, rfl, number, kept, active⟩, rfl⟩
    have same : (if before.id = id then { before with lastActiveAt := some now } else before) =
        { before with lastActiveAt := if before.id = id then some now else before.lastActiveAt } := by
      split <;> rfl
    rw [same]
    refine ⟨earlier, later ++ [.ping id now], by simp, number, by simpa using kept, ?_⟩
    rw [last, active]

theorem recorded_concat_drop (id : Nat) :
    Recorded (calls ++ [.drop id]) feed ↔ Recorded calls feed ∧ feed.id ≠ id := by
  constructor
  · rintro ⟨earlier, later, cut, number, kept, active⟩
    rcases Watch.cut_concat cut with ⟨_, other⟩ | ⟨rest, rfl⟩
    · cases other
    obtain rfl : rest ++ [.drop id] = later := by simpa using cut
    refine ⟨⟨earlier, rest, rfl, number, fun dropped => kept (by simp [dropped]), ?_⟩, ?_⟩
    · simpa [Call.pinged?] using active
    · rintro rfl
      exact kept (by simp)
  · rintro ⟨⟨earlier, later, rfl, number, kept, active⟩, different⟩
    exact ⟨earlier, later ++ [.drop id], by simp, number, by simpa using ⟨kept, different⟩,
      by simpa [Call.pinged?] using active⟩

/-! ## A whole history -/

/-- The registry holds what the calls tell, in the order of the ids. -/
structure Tells (calls : List Call) (registry : Liveness) : Prop where
  next : registry.nextId = registrations calls + 1
  rising : (registry.feeds.map (·.id)).Pairwise (· < ·)
  below : ∀ feed ∈ registry.feeds, feed.id < registry.nextId
  recorded : ∀ feed, feed ∈ registry.feeds ↔ Recorded calls feed

theorem tells_empty (allowed : Int) : Tells [] (.empty allowed) where
  next := rfl
  rising := .nil
  below := nofun
  recorded feed := by
    refine iff_of_false List.not_mem_nil ?_
    rintro ⟨earlier, later, none, _⟩
    simp at none

theorem ids_ping (id : Nat) (now : Int) :
    (registry.ping id now).feeds.map (·.id) = registry.feeds.map (·.id) := by
  simp only [ping, List.map_map]
  refine List.map_congr_left fun feed _ => ?_
  simp only [Function.comp_apply]
  split <;> rfl

/-- What one call preserves. -/
theorem tells_call (tells : Tells calls registry) (call : Call) :
    Tells (calls ++ [call]) (registry.call call) := by
  cases call with
  | register name now =>
    refine ⟨?_, ?_, ?_, ?_⟩
    · simp [Liveness.call, register, registrations_concat, Call.registers, tells.next]
    · simp only [Liveness.call, register, List.map_append, List.pairwise_append]
      exact ⟨tells.rising, by simp, by simpa using tells.below⟩
    · intro feed member
      rcases List.mem_append.1 member with old | fresh
      · exact Nat.lt_succ_of_lt (tells.below feed old)
      · obtain rfl := List.mem_singleton.1 fresh
        exact Nat.lt_succ_self _
    · intro feed
      rw [recorded_concat_register, ← tells.recorded, ← tells.next]
      simp [Liveness.call, register]
  | ping id now =>
    refine ⟨?_, ?_, ?_, ?_⟩
    · simpa [Liveness.call, ping, registrations_concat, Call.registers] using tells.next
    · rw [Liveness.call, ids_ping]
      exact tells.rising
    · intro feed member
      have listed : feed.id ∈ (registry.ping id now).feeds.map (·.id) := List.mem_map_of_mem member
      rw [ids_ping] at listed
      obtain ⟨before, old, same⟩ := List.mem_map.1 listed
      exact same ▸ tells.below before old
    · intro feed
      simp [recorded_concat_ping, ← tells.recorded, Liveness.call, ping]
  | drop id =>
    refine ⟨?_, tells.rising.sublist (List.filter_sublist.map _), ?_, ?_⟩
    · simpa [Liveness.call, drop, registrations_concat, Call.registers] using tells.next
    · exact fun feed member => tells.below feed (List.mem_filter.1 member).1
    · intro feed
      simp [recorded_concat_drop, ← tells.recorded, Liveness.call, drop]

/-- What a whole history preserves. -/
theorem tells_after (allowed : Int) (calls : List Call) :
    Tells calls ((empty allowed).after calls) := by
  -- from the end, where a feed's history grows
  induction calls using List.reverseRecOn with
  | nil => exact tells_empty allowed
  | append_singleton calls call ih => exact after_concat calls call ▸ tells_call ih call

/-! ## The report -/

theorem mem_report_iff {now : Int} {status : FeedStatus} :
    status ∈ (registry.report now).feeds ↔ status.feed ∈ registry.feeds ∧
      status.silence =
        max 0 (Clock.between (status.lastActiveAt.getD status.registeredAt) now) ∧
      (status.active = true ↔ status.silence ≤ registry.allowedSilence) := by
  simp only [report, List.mem_map]
  constructor
  · rintro ⟨feed, member, rfl⟩
    exact ⟨member, rfl, by simp [Feed.status]⟩
  · rintro ⟨member, silence, active⟩
    refine ⟨status.feed, member, ?_⟩
    rcases status with ⟨id, name, registeredAt, lastActiveAt, silent, isActive⟩
    dsimp only at silence active
    subst silence
    simp [Feed.status, FeedStatus.feed, ← active]

theorem ok_report_iff (now : Int) :
    (registry.report now).ok = true ↔
      ∀ status ∈ (registry.report now).feeds, status.active = true := by
  simp only [report, List.all_eq_true]

theorem allSilent_report_iff (now : Int) :
    (registry.report now).allSilent = true ↔ (registry.report now).feeds ≠ [] ∧
      ∀ status ∈ (registry.report now).feeds, status.active = false := by
  simp [report, List.all_eq_true]

theorem ids_report (now : Int) :
    (registry.report now).feeds.map (·.id) = registry.feeds.map (·.id) := by
  simp only [report, List.map_map]
  rfl

/-- After any calls the report lists the feeds that were registered and not dropped since, in the
order of their registration, each with the times of its registration and of its last ping, and with
its silence since then; the ids are the numbers of the registrations.  The report is good if no feed
was silent for too long and bad if all were, and never both if there is a feed at all.  What is
reported of a feed is changed by the calls about it only. -/
theorem report_exact (allowed : Int) (calls : List Call) (now : Int) {registry : Liveness}
    {report : LivenessReport} (recorded : registry = (empty allowed).after calls)
    (reported : report = registry.report now) :
    (∀ status, status ∈ report.feeds ↔ Recorded calls status.feed ∧
      status.silence = max 0 (Clock.between (status.lastActiveAt.getD status.registeredAt) now) ∧
      (status.active = true ↔ status.silence ≤ allowed)) ∧
    (∀ status ∈ report.feeds,
      (now - status.lastActiveAt.getD status.registeredAt).natAbs < Nat.pow 2 Clock.precision →
        status.silence = max 0 (now - status.lastActiveAt.getD status.registeredAt)) ∧
    (report.feeds.map (·.id)).Pairwise (· < ·) ∧
    registry.nextId = registrations calls + 1 ∧
    (report.ok = true ↔ ∀ status ∈ report.feeds, status.active = true) ∧
    (report.allSilent = true ↔
      report.feeds ≠ [] ∧ ∀ status ∈ report.feeds, status.active = false) ∧
    ¬ (report.ok = true ∧ report.allSilent = true) ∧
    ∀ call other, other ≠ registry.subject call →
      ((registry.call call).report now).status? other = report.status? other := by
  subst reported
  have tells : Tells calls registry := recorded ▸ tells_after allowed calls
  have limit : registry.allowedSilence = allowed := recorded ▸ allowedSilence_after calls
  have listed (status : FeedStatus) : status ∈ (registry.report now).feeds ↔ _ := mem_report_iff
  simp only [tells.recorded, limit] at listed
  refine ⟨listed, ?_, ids_report now ▸ tells.rising, tells.next, ok_report_iff now,
    allSilent_report_iff now, ?_, ?_⟩
  · intro status member short
    rw [((listed status).1 member).2.1, Clock.between, Clock.nearest_of_natAbs_lt short]
  · rintro ⟨good, bad⟩
    obtain ⟨some, silent⟩ := (allSilent_report_iff now).1 bad
    obtain ⟨status, member⟩ := List.exists_mem_of_ne_nil _ some
    have active := (ok_report_iff now).1 good status member
    rw [silent status member] at active
    cases active
  · intro call other different
    rw [status?_report, status?_report, feed?_call_of_ne call different, allowedSilence_call]

/-- Two feeds of one name, of which the first is pinged once more after it was dropped, and a third
one, while the clock runs back. -/
def crossedCalls : List Call :=
  [.register "a" 10, .register "a" 20, .ping 1 30, .drop 1, .ping 1 40, .ping 2 5, .register "b" 0]

/-- The first feed is gone, the second one was active a while ago, the third one never. -/
theorem report_exact_crossedCalls :
    ((empty 3).after crossedCalls).nextId = 4 ∧
      ((empty 3).after crossedCalls).subject (.ping 2 8) = 2 ∧
      (((empty 3).after (crossedCalls ++ [.ping 2 8])).report 8).status? 3 =
        some ⟨3, "b", 0, none, 8, false⟩ ∧
      Recorded crossedCalls ⟨2, "a", 20, some 5⟩ ∧
      (¬ ∃ feed, Recorded crossedCalls feed ∧ feed.id = 1) ∧
      (((empty 3).after crossedCalls).report 8).ok = false ∧
      (((empty 3).after crossedCalls).report 8).allSilent = false := by
  obtain ⟨listed, _, _, next, good, bad, _, others⟩ := report_exact 3 crossedCalls 8 rfl rfl
  have feeds : (((empty 3).after crossedCalls).report 8).feeds =
      [⟨2, "a", 20, some 5, 3, true⟩, ⟨3, "b", 0, none, 8, false⟩] := by
    decide
  rw [feeds] at listed good bad
  refine ⟨next, rfl, ?_, ((listed ⟨2, "a", 20, some 5, 3, true⟩).1 (by simp)).1, ?_, ?_, ?_⟩
  · rw [after_concat, others (.ping 2 8) 3 (by decide)]
    decide
  · rintro ⟨feed, recorded, first⟩
    let silence := max 0 (Clock.between (feed.lastActiveAt.getD feed.registeredAt) 8)
    have member := (listed ⟨feed.id, feed.name, feed.registeredAt, feed.lastActiveAt, silence,
      decide (silence ≤ 3)⟩).2 ⟨recorded, rfl, by simp⟩
    simp [first] at member
  · exact Bool.eq_false_iff.2 fun ok => by simpa using good.1 ok
  · exact Bool.eq_false_iff.2 fun silent => by simpa using bad.1 silent

end Liveness
end SlabBook

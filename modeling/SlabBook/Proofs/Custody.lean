import Mathlib.Data.List.Nodup
import Mathlib.Logic.Function.Basic
import SlabBook.Live.Watcher

/-!
# Custody

What the watchers of a session have taken and given back: feeds of a registry, and listeners of a
connection.  A watcher that keeps its feed keeps its listener; one that has given its feed back has
asked for the removal of its listener once.

* `Custody.FeedsSound`, `Custody.ListenersSound` — what holds of the feeds and of the listeners, with
  a lemma for each change.
-/

namespace SlabBook

variable {α : Type}

/-- What a watcher has taken, whether it has given its feed back, and whether its disposal has begun. -/
structure Tenure where
  name : String
  registers : Bool
  feed : Option Nat
  listener : Option Nat
  retired : Bool
  disposing : Bool
  deriving DecidableEq, Repr

/-- The feeds in the registry by id and name, what each watcher holds, all listeners ever attached,
and the ids of those whose removal was asked for, in the order of these calls. -/
@[ext]
structure Custody where
  feeds : List (Nat × String)
  nextFeed : Nat
  size : Nat
  tenure : Nat → Option Tenure
  attached : List Listener
  nextListener : Nat
  released : List Nat

namespace Custody

def register (c : Custody) (name : String) : Custody :=
  { c with feeds := c.feeds ++ [(c.nextFeed, name)], nextFeed := c.nextFeed + 1 }

def drop (c : Custody) : Option Nat → Custody
  | none => c
  | some id => { c with feeds := c.feeds.filter fun entry => entry.1 ≠ id }

def setTenure (c : Custody) (index : Nat) (tenure : Tenure) : Custody :=
  { c with tenure := Function.update c.tenure index (some tenure) }

/-- One more watcher, which has the feed. -/
def join (c : Custody) (request : WatchRequest α) (feed : Option Nat) : Custody :=
  { c.setTenure c.size ⟨request.name, request.options.liveness, feed, none, false, false⟩ with
    size := c.size + 1 }

/-- One more watcher, which has a feed if it was given the registry. -/
def enlist (c : Custody) (request : WatchRequest α) : Custody :=
  if request.options.liveness then (c.register request.name).join request (some c.nextFeed)
  else c.join request none

def attach (c : Custody) (address : Address) (sink : Sink) : Custody :=
  { c with
    attached := c.attached ++ [⟨c.nextListener, address, sink⟩]
    nextListener := c.nextListener + 1 }

def release (c : Custody) (id : Nat) : Custody := { c with released := c.released ++ [id] }

def hold (c : Custody) (index id : Nat) : Custody :=
  match c.tenure index with
  | none => c
  | some tenure => c.setTenure index { tenure with listener := some id }

def retire (c : Custody) (index : Nat) : Custody :=
  match c.tenure index with
  | none => c
  | some tenure => (c.drop tenure.feed).setTenure index { tenure with retired := true }

def noteDisposal (c : Custody) (index : Nat) : Custody :=
  match c.tenure index with
  | none => c
  | some tenure => c.setTenure index { tenure with disposing := true }

theorem setTenure_self {c : Custody} {index : Nat} {tenure : Tenure}
    (held : c.tenure index = some tenure) : c.setTenure index tenure = c := by
  simp only [setTenure, ← held, Function.update_eq_self]

variable {tenure : Nat → Option Tenure} {index : Nat} {held changed : Tenure}

theorem update_cases {queried : Nat} {found : Tenure}
    (there : Function.update tenure index (some changed) queried = some found) :
    (queried = index ∧ found = changed) ∨ (queried ≠ index ∧ tenure queried = some found) := by
  rw [Function.update_apply] at there
  split at there
  · rename_i same
    exact .inl ⟨same, (Option.some.inj there).symm⟩
  · rename_i different
    exact .inr ⟨different, there⟩

/-! ## Numbers given in order -/

theorem nodup_concat {β : Type} {key : β → Nat} {items : List β} {bound : Nat} {last : β}
    (distinct : (items.map key).Nodup) (below : ∀ item ∈ items, key item < bound)
    (fresh : key last = bound) : ((items ++ [last]).map key).Nodup := by
  rw [List.map_append, List.nodup_append]
  refine ⟨distinct, List.nodup_singleton _, ?_⟩
  intro old earlier new later same
  obtain ⟨item, member, rfl⟩ := List.mem_map.1 earlier
  have bounded := below item member
  have last_key : new = key last := by simpa using later
  omega

theorem below_concat {β : Type} {key : β → Nat} {items : List β} {bound : Nat} {last : β}
    (below : ∀ item ∈ items, key item < bound) (fresh : key last = bound) :
    ∀ item ∈ items ++ [last], key item < bound + 1 := by
  intro item member
  rcases List.mem_append.1 member with old | new
  · exact Nat.lt_succ_of_lt (below item old)
  · obtain rfl := List.mem_singleton.1 new
    exact fresh ▸ Nat.lt_succ_self _

/-! ## Feeds -/

variable {own : List Nat} {feeds : List (Nat × String)} {nextFeed : Nat}

/-- A watcher given the registry has a feed of its own, which is there until the watcher retires. -/
structure Leases (own : List Nat) (feeds : List (Nat × String)) (nextFeed : Nat) (held : Tenure) :
    Prop where
  registers : held.feed.isSome = held.registers
  below : ∀ id, held.feed = some id → id < nextFeed
  apart : ∀ id, held.feed = some id → id ∉ own
  kept : ∀ id, held.feed = some id → held.retired = false → (id, held.name) ∈ feeds

/-- Every feed is one of some that belong to no watcher, or that of a watcher that has not retired.
No two watchers have the same one. -/
structure FeedsSound (own : List Nat) (feeds : List (Nat × String)) (nextFeed : Nat)
    (tenure : Nat → Option Tenure) : Prop where
  ids : (feeds.map Prod.fst).Nodup
  below : ∀ entry ∈ feeds, entry.1 < nextFeed
  own_below : ∀ id ∈ own, id < nextFeed
  taken : ∀ entry ∈ feeds, entry.1 ∈ own ∨ ∃ index held, tenure index = some held ∧
    held.retired = false ∧ held.feed = some entry.1 ∧ held.name = entry.2
  leases : ∀ index held, tenure index = some held → Leases own feeds nextFeed held
  distinct : ∀ first second held other id, tenure first = some held → tenure second = some other →
    held.feed = some id → other.feed = some id → first = second

theorem FeedsSound.empty (nextFeed : Nat) : FeedsSound [] [] nextFeed fun _ => none where
  ids := List.nodup_nil
  below := nofun
  own_below := nofun
  taken := nofun
  leases := nofun
  distinct _ _ _ _ _ found := nomatch found

theorem Leases.register (leases : Leases own feeds nextFeed held) (name : String) :
    Leases (own ++ [nextFeed]) (feeds ++ [(nextFeed, name)]) (nextFeed + 1) held where
  registers := leases.registers
  below id feed := Nat.lt_succ_of_lt (leases.below id feed)
  apart := by
    intro id feed member
    rcases List.mem_append.1 member with old | fresh
    · exact leases.apart id feed old
    · obtain rfl := List.mem_singleton.1 fresh
      exact Nat.lt_irrefl _ (leases.below _ feed)
  kept id feed live := List.mem_append_left _ (leases.kept id feed live)

/-- A new feed that belongs to no watcher. -/
theorem FeedsSound.register (sound : FeedsSound own feeds nextFeed tenure) (name : String) :
    FeedsSound (own ++ [nextFeed]) (feeds ++ [(nextFeed, name)]) (nextFeed + 1) tenure where
  ids := nodup_concat sound.ids sound.below rfl
  below := below_concat sound.below rfl
  own_below := @below_concat _ id _ _ _ sound.own_below rfl
  taken := by
    intro entry member
    rcases List.mem_append.1 member with old | fresh
    · exact (sound.taken entry old).imp_left (List.mem_append_left _)
    · obtain rfl := List.mem_singleton.1 fresh
      exact .inl (List.mem_append_right _ (List.mem_singleton_self _))
  leases index held found := (sound.leases index held found).register name
  distinct := sound.distinct

/-- A feed that belongs to no watcher is dropped. -/
theorem FeedsSound.drop (sound : FeedsSound own feeds nextFeed tenure) {id : Nat}
    (mine : id ∈ own) :
    FeedsSound own (feeds.filter fun entry => entry.1 ≠ id) nextFeed tenure where
  ids := (List.filter_sublist.map _).nodup sound.ids
  below entry member := sound.below entry (List.mem_filter.1 member).1
  own_below := sound.own_below
  taken entry member := sound.taken entry (List.mem_filter.1 member).1
  leases := by
    intro index held found
    have leases := sound.leases index held found
    refine { leases with kept := fun other feed live => ?_ }
    have different : other ≠ id := fun same => leases.apart other feed (same ▸ mine)
    exact List.mem_filter.2 ⟨leases.kept other feed live, by simpa using different⟩
  distinct := sound.distinct

theorem FeedsSound.taken_update (sound : FeedsSound own feeds nextFeed tenure)
    (fresh : tenure index = none) (changed : Tenure) :
    ∀ entry ∈ feeds, entry.1 ∈ own ∨ ∃ position held,
      Function.update tenure index (some changed) position = some held ∧ held.retired = false ∧
        held.feed = some entry.1 ∧ held.name = entry.2 := by
  intro entry member
  refine (sound.taken entry member).imp_right ?_
  rintro ⟨position, held, found, rest⟩
  have different : position ≠ index := by
    rintro rfl
    rw [fresh] at found
    cases found
  exact ⟨position, held, by rw [Function.update_of_ne different, found], rest⟩

/-- A watcher joins that was not given the registry. -/
theorem FeedsSound.join (sound : FeedsSound own feeds nextFeed tenure)
    (fresh : tenure index = none) (feed : changed.feed = none)
    (registers : changed.registers = false) :
    FeedsSound own feeds nextFeed (Function.update tenure index (some changed)) where
  ids := sound.ids
  below := sound.below
  own_below := sound.own_below
  taken := sound.taken_update fresh changed
  leases := by
    intro position held found
    rcases update_cases found with ⟨_, rfl⟩ | ⟨_, old⟩
    · exact ⟨by rw [feed, registers]; rfl, by simp [feed], by simp [feed], by simp [feed]⟩
    · exact sound.leases position held old
  distinct := by
    intro first second held other id found there taken again
    rcases update_cases found with ⟨_, rfl⟩ | ⟨_, old⟩
    · rw [feed] at taken
      cases taken
    rcases update_cases there with ⟨_, rfl⟩ | ⟨_, old_too⟩
    · rw [feed] at again
      cases again
    exact sound.distinct first second held other id old old_too taken again

/-- A watcher joins with a new feed. -/
theorem FeedsSound.join_registered (sound : FeedsSound own feeds nextFeed tenure)
    (fresh : tenure index = none) (feed : changed.feed = some nextFeed)
    (registers : changed.registers = true) (live : changed.retired = false) :
    FeedsSound own (feeds ++ [(nextFeed, changed.name)]) (nextFeed + 1)
      (Function.update tenure index (some changed)) where
  ids := nodup_concat sound.ids sound.below rfl
  below := below_concat sound.below rfl
  own_below id member := Nat.lt_succ_of_lt (sound.own_below id member)
  taken := by
    intro entry member
    rcases List.mem_append.1 member with old | last
    · exact sound.taken_update fresh changed entry old
    · obtain rfl := List.mem_singleton.1 last
      exact .inr ⟨index, changed, Function.update_self .., live, feed, rfl⟩
  leases := by
    intro position held found
    rcases update_cases found with ⟨_, rfl⟩ | ⟨_, old⟩
    · refine ⟨by rw [feed, registers]; rfl, ?_, ?_, ?_⟩
      · intro id same
        obtain rfl : nextFeed = id := Option.some.inj (feed.symm.trans same)
        exact Nat.lt_succ_self _
      · intro id same member
        obtain rfl : nextFeed = id := Option.some.inj (feed.symm.trans same)
        exact Nat.lt_irrefl _ (sound.own_below _ member)
      · intro id same _
        obtain rfl : nextFeed = id := Option.some.inj (feed.symm.trans same)
        exact List.mem_append_right _ (List.mem_singleton_self _)
    · have leases := sound.leases position held old
      exact ⟨leases.registers, fun id feed => Nat.lt_succ_of_lt (leases.below id feed),
        leases.apart, fun id feed live => List.mem_append_left _ (leases.kept id feed live)⟩
  distinct := by
    intro first second held other id found there taken again
    have newest {position : Nat} {old : Tenure} (known : tenure position = some old)
        (same : old.feed = some nextFeed) : False :=
      Nat.lt_irrefl _ ((sound.leases position old known).below _ same)
    rcases update_cases found with ⟨rfl, rfl⟩ | ⟨_, old⟩
    · obtain rfl : nextFeed = id := Option.some.inj (feed.symm.trans taken)
      rcases update_cases there with ⟨rfl, _⟩ | ⟨_, old_too⟩
      · rfl
      · exact (newest old_too again).elim
    rcases update_cases there with ⟨_, rfl⟩ | ⟨_, old_too⟩
    · obtain rfl : nextFeed = id := Option.some.inj (feed.symm.trans again)
      exact (newest old taken).elim
    exact sound.distinct first second held other id old old_too taken again

/-- A watcher's tenure changes, but not in its feed. -/
theorem FeedsSound.distinct_update (sound : FeedsSound own feeds nextFeed tenure)
    (found : tenure index = some held) (feed : changed.feed = held.feed) :
    ∀ first second one other id,
      Function.update tenure index (some changed) first = some one →
      Function.update tenure index (some changed) second = some other →
      one.feed = some id → other.feed = some id → first = second := by
  have before {position : Nat} {now : Tenure} {id : Nat}
      (there : Function.update tenure index (some changed) position = some now)
      (taken : now.feed = some id) : ∃ old, tenure position = some old ∧ old.feed = some id := by
    rcases update_cases there with ⟨rfl, rfl⟩ | ⟨_, old⟩
    · exact ⟨held, found, feed.symm.trans taken⟩
    · exact ⟨now, old, taken⟩
  intro first second one other id there there_too taken again
  obtain ⟨old, known, feed_old⟩ := before there taken
  obtain ⟨old_too, known_too, feed_too⟩ := before there_too again
  exact sound.distinct first second old old_too id known known_too feed_old feed_too

/-- A watcher retires and drops its feed. -/
theorem FeedsSound.retire (sound : FeedsSound own feeds nextFeed tenure)
    (found : tenure index = some held) (feed : changed.feed = held.feed)
    (registers : changed.registers = held.registers) (retired : changed.retired = true) :
    FeedsSound own (feeds.filter fun entry => held.feed ≠ some entry.1) nextFeed
      (Function.update tenure index (some changed)) where
  ids := (List.filter_sublist.map _).nodup sound.ids
  below entry member := sound.below entry (List.mem_filter.1 member).1
  own_below := sound.own_below
  taken := by
    intro entry member
    obtain ⟨old, stays⟩ := List.mem_filter.1 member
    refine (sound.taken entry old).imp_right ?_
    rintro ⟨position, other, there, live, taken, name⟩
    have different : position ≠ index := by
      rintro rfl
      obtain rfl : held = other := Option.some.inj (found.symm.trans there)
      exact absurd taken (of_decide_eq_true stays)
    exact ⟨position, other, by rw [Function.update_of_ne different, there], live, taken, name⟩
  leases := by
    intro position other there
    rcases update_cases there with ⟨rfl, rfl⟩ | ⟨different, old⟩
    · have leases := sound.leases position held found
      refine ⟨by rw [feed, registers, leases.registers], fun id same => ?_, fun id same => ?_,
        fun id same live => ?_⟩
      · exact leases.below id (feed ▸ same)
      · exact leases.apart id (feed ▸ same)
      · rw [retired] at live
        cases live
    · have leases := sound.leases position other old
      refine { leases with kept := fun id taken live => ?_ }
      refine List.mem_filter.2 ⟨leases.kept id taken live, decide_eq_true fun same => ?_⟩
      -- no other watcher has the feed that goes
      exact different (sound.distinct position index other held id old found taken same)
  distinct := sound.distinct_update found feed

/-- A watcher's tenure changes in nothing that regards its feed. -/
theorem FeedsSound.amend (sound : FeedsSound own feeds nextFeed tenure)
    (found : tenure index = some held) (feed : changed.feed = held.feed)
    (registers : changed.registers = held.registers) (retired : changed.retired = held.retired)
    (name : changed.name = held.name) :
    FeedsSound own feeds nextFeed (Function.update tenure index (some changed)) where
  ids := sound.ids
  below := sound.below
  own_below := sound.own_below
  taken := by
    intro entry member
    refine (sound.taken entry member).imp_right ?_
    rintro ⟨position, other, there, live, taken, named⟩
    by_cases same : position = index
    · subst same
      obtain rfl : held = other := Option.some.inj (found.symm.trans there)
      exact ⟨position, changed, Function.update_self .., retired.trans live, feed.trans taken,
        name.trans named⟩
    · exact ⟨position, other, by rw [Function.update_of_ne same, there], live, taken, named⟩
  leases := by
    intro position other there
    rcases update_cases there with ⟨rfl, rfl⟩ | ⟨_, old⟩
    · have leases := sound.leases position held found
      refine ⟨by rw [feed, registers, leases.registers], fun id same => ?_, fun id same => ?_,
        fun id same live => ?_⟩
      · exact leases.below id (feed ▸ same)
      · exact leases.apart id (feed ▸ same)
      · rw [name]
        exact leases.kept id (feed ▸ same) (retired ▸ live)
    · exact sound.leases position other old
  distinct := sound.distinct_update found feed

/-! ## Listeners -/

variable {attached : List Listener} {nextListener : Nat} {released : List Nat}

/-- Listeners that aim at a watcher are the one it holds.  The removal of that one has been asked for
once if the watcher has retired, and not before. -/
structure ListenersSound (attached : List Listener) (nextListener : Nat) (released : List Nat)
    (tenure : Nat → Option Tenure) : Prop where
  ids : (attached.map Listener.id).Nodup
  below : ∀ listener ∈ attached, listener.id < nextListener
  released_below : ∀ id ∈ released, id < nextListener
  aimed : ∀ listener ∈ attached, ∀ index, listener.sink = .watcher index →
    ∃ held, tenure index = some held ∧ held.listener = some listener.id
  holds : ∀ index held id, tenure index = some held → held.listener = some id →
    ∃ listener ∈ attached, listener.id = id ∧ listener.sink = .watcher index
  count : ∀ index held id, tenure index = some held → held.listener = some id →
    released.count id = if held.retired then 1 else 0

theorem ListenersSound.empty (nextListener : Nat) :
    ListenersSound [] nextListener [] fun _ => none where
  ids := List.nodup_nil
  below := nofun
  released_below := nofun
  aimed := nofun
  holds := nofun
  count := nofun

theorem eq_of_id (ids : (attached.map Listener.id).Nodup) {first second : Listener}
    (member : first ∈ attached) (member_too : second ∈ attached) (same : first.id = second.id) :
    first = second :=
  List.inj_on_of_nodup_map ids member member_too same

/-- A listener is attached that aims at no watcher. -/
theorem ListenersSound.listen (sound : ListenersSound attached nextListener released tenure)
    (address : Address) {sink : Sink} (elsewhere : ∀ index, sink ≠ .watcher index) :
    ListenersSound (attached ++ [⟨nextListener, address, sink⟩]) (nextListener + 1) released
      tenure where
  ids := nodup_concat sound.ids sound.below rfl
  below := below_concat sound.below rfl
  released_below id member := Nat.lt_succ_of_lt (sound.released_below id member)
  aimed := by
    intro listener member index aim
    rcases List.mem_append.1 member with old | fresh
    · exact sound.aimed listener old index aim
    · obtain rfl := List.mem_singleton.1 fresh
      exact absurd aim (elsewhere index)
  holds := by
    intro index held id found taken
    obtain ⟨listener, member, rest⟩ := sound.holds index held id found taken
    exact ⟨listener, List.mem_append_left _ member, rest⟩
  count := sound.count

/-- The removal of a listener is asked for that aims at no watcher. -/
theorem ListenersSound.unlisten (sound : ListenersSound attached nextListener released tenure)
    {listener : Listener} (member : listener ∈ attached)
    (elsewhere : ∀ index, listener.sink ≠ .watcher index) :
    ListenersSound attached nextListener (released ++ [listener.id]) tenure where
  ids := sound.ids
  below := sound.below
  released_below := by
    intro id asked
    rcases List.mem_append.1 asked with old | fresh
    · exact sound.released_below id old
    · obtain rfl := List.mem_singleton.1 fresh
      exact sound.below listener member
  aimed := sound.aimed
  holds := sound.holds
  count := by
    intro index held id found taken
    obtain ⟨other, there, rfl, sink⟩ := sound.holds index held id found taken
    have different : listener.id ≠ other.id := fun same =>
      elsewhere index (eq_of_id sound.ids member there same ▸ sink)
    rw [List.count_append, List.count_singleton, beq_false_of_ne different, if_neg nofun,
      Nat.add_zero]
    exact sound.count index held _ found taken

theorem ListenersSound.aimed_update (sound : ListenersSound attached nextListener released tenure)
    (listener : (tenure index).bind (·.listener) = none ∨
      (tenure index).bind (·.listener) = changed.listener) :
    ∀ listener ∈ attached, ∀ position, listener.sink = .watcher position →
      ∃ held, Function.update tenure index (some changed) position = some held ∧
        held.listener = some listener.id := by
  intro one member position sink
  obtain ⟨held, found, holds⟩ := sound.aimed one member position sink
  by_cases same : position = index
  · subst same
    rw [found, Option.bind_some, holds] at listener
    refine ⟨changed, Function.update_self .., ?_⟩
    rcases listener with none | kept
    · cases none
    · exact kept.symm
  · exact ⟨held, by rw [Function.update_of_ne same, found], holds⟩

/-- A watcher's tenure changes that holds no listener before or after. -/
theorem ListenersSound.amend_unheld (sound : ListenersSound attached nextListener released tenure)
    (before : (tenure index).bind (·.listener) = none) (after : changed.listener = none) :
    ListenersSound attached nextListener released
      (Function.update tenure index (some changed)) where
  ids := sound.ids
  below := sound.below
  released_below := sound.released_below
  aimed := sound.aimed_update (.inl before)
  holds := by
    intro position held id found taken
    rcases update_cases found with ⟨_, rfl⟩ | ⟨_, old⟩
    · rw [after] at taken
      cases taken
    · exact sound.holds position held id old taken
  count := by
    intro position held id found taken
    rcases update_cases found with ⟨_, rfl⟩ | ⟨_, old⟩
    · rw [after] at taken
      cases taken
    · exact sound.count position held id old taken

/-- A watcher's tenure changes in nothing that regards its listener. -/
theorem ListenersSound.amend (sound : ListenersSound attached nextListener released tenure)
    (found : tenure index = some held) (listener : changed.listener = held.listener)
    (retired : changed.retired = held.retired) :
    ListenersSound attached nextListener released
      (Function.update tenure index (some changed)) where
  ids := sound.ids
  below := sound.below
  released_below := sound.released_below
  aimed := sound.aimed_update (.inr (by rw [found, Option.bind_some, listener]))
  holds := by
    intro position other id there taken
    rcases update_cases there with ⟨rfl, rfl⟩ | ⟨_, old⟩
    · exact sound.holds position held id found (listener ▸ taken)
    · exact sound.holds position other id old taken
  count := by
    intro position other id there taken
    rcases update_cases there with ⟨rfl, rfl⟩ | ⟨_, old⟩
    · rw [retired]
      exact sound.count position held id found (listener ▸ taken)
    · exact sound.count position other id old taken

/-- A live watcher that holds no listener is given one. -/
theorem ListenersSound.seat (sound : ListenersSound attached nextListener released tenure)
    (address : Address) (before : (tenure index).bind (·.listener) = none)
    (listener : changed.listener = some nextListener) (live : changed.retired = false) :
    ListenersSound (attached ++ [⟨nextListener, address, .watcher index⟩]) (nextListener + 1)
      released (Function.update tenure index (some changed)) where
  ids := nodup_concat sound.ids sound.below rfl
  below := below_concat sound.below rfl
  released_below id member := Nat.lt_succ_of_lt (sound.released_below id member)
  aimed := by
    intro one member position sink
    rcases List.mem_append.1 member with old | fresh
    · exact sound.aimed_update (.inl before) one old position sink
    · obtain rfl := List.mem_singleton.1 fresh
      obtain rfl : index = position := Sink.watcher.inj sink
      exact ⟨changed, Function.update_self .., listener⟩
  holds := by
    intro position held id found taken
    rcases update_cases found with ⟨rfl, rfl⟩ | ⟨_, old⟩
    · refine ⟨_, List.mem_append_right _ (List.mem_singleton_self _), ?_, rfl⟩
      exact Option.some.inj (listener.symm.trans taken)
    · obtain ⟨one, member, rest⟩ := sound.holds position held id old taken
      exact ⟨one, List.mem_append_left _ member, rest⟩
  count := by
    intro position held id found taken
    rcases update_cases found with ⟨rfl, rfl⟩ | ⟨_, old⟩
    · obtain rfl : nextListener = id := Option.some.inj (listener.symm.trans taken)
      rw [live]
      refine List.count_eq_zero.2 fun member => ?_
      exact Nat.lt_irrefl _ (sound.released_below _ member)
    · exact sound.count position held id old taken

/-- A live watcher retires and asks for the removal of its listener. -/
theorem ListenersSound.part (sound : ListenersSound attached nextListener released tenure)
    {id : Nat} (found : tenure index = some held) (holding : held.listener = some id)
    (live : held.retired = false) (listener : changed.listener = held.listener)
    (retired : changed.retired = true) :
    ListenersSound attached nextListener (released ++ [id])
      (Function.update tenure index (some changed)) where
  ids := sound.ids
  below := sound.below
  released_below := by
    intro other asked
    rcases List.mem_append.1 asked with old | fresh
    · exact sound.released_below other old
    · obtain rfl := List.mem_singleton.1 fresh
      obtain ⟨one, member, rfl, _⟩ := sound.holds index held _ found holding
      exact sound.below one member
  aimed := sound.aimed_update (.inr (by rw [found, Option.bind_some, listener]))
  holds := by
    intro position other taken_id there taken
    rcases update_cases there with ⟨rfl, rfl⟩ | ⟨_, old⟩
    · exact sound.holds position held taken_id found (listener ▸ taken)
    · exact sound.holds position other taken_id old taken
  count := by
    intro position other taken_id there taken
    rw [List.count_append, List.count_singleton]
    rcases update_cases there with ⟨rfl, rfl⟩ | ⟨different, old⟩
    · obtain rfl : id = taken_id :=
        Option.some.inj (holding.symm.trans (listener.symm.trans taken))
      rw [sound.count position held id found holding, live, retired]
      simp
    · obtain ⟨one, member, rfl, sink⟩ := sound.holds index held id found holding
      obtain ⟨another, member_too, rfl, sink_too⟩ :=
        sound.holds position other taken_id old taken
      -- equal ids would make one listener of two that aim at different watchers
      have apart : one.id ≠ another.id := by
        intro same
        have equal := eq_of_id sound.ids member member_too same
        rw [equal, sink_too] at sink
        exact different (Sink.watcher.inj sink)
      rw [beq_false_of_ne apart, if_neg nofun, Nat.add_zero]
      exact sound.count position other _ old taken

/-! ## Joining and leaving -/

/-- What holds of a custody whose feeds of its own are these. -/
structure Sound (own : List Nat) (c : Custody) : Prop where
  feeds : FeedsSound own c.feeds c.nextFeed c.tenure
  listeners : ListenersSound c.attached c.nextListener c.released c.tenure
  absent : ∀ index, c.size ≤ index → c.tenure index = none

/-- A watcher that is there has joined. -/
theorem Sound.lt_size {c : Custody} (sound : Sound own c) (found : c.tenure index = some held) :
    index < c.size := by
  refine Nat.lt_of_not_le fun outside => ?_
  rw [sound.absent index outside] at found
  cases found

/-- The watcher is there and has not retired. -/
def Live (c : Custody) (index : Nat) : Prop :=
  ∃ held, c.tenure index = some held ∧ held.retired = false

/-- A watcher that has just joined. -/
def entrant (c : Custody) (request : WatchRequest α) : Tenure where
  name := request.name
  registers := request.options.liveness
  feed := if request.options.liveness then some c.nextFeed else none
  listener := none
  retired := false
  disposing := false

/-- A watcher joins and is given its listener. -/
def welcome (c : Custody) (request : WatchRequest α) : Custody :=
  ((c.enlist request).attach request.address (.watcher c.size)).hold c.size c.nextListener

/-- A watcher retires and asks for the removal of its listener, if it has one. -/
def leave (c : Custody) (index : Nat) : Custody :=
  match (c.tenure index).bind (·.listener) with
  | none => c.retire index
  | some id => (c.retire index).release id

/-- A watcher leaves, unless it was disposed before. -/
def dispose (c : Custody) (index : Nat) : Custody :=
  match c.tenure index with
  | none => c
  | some held => if held.disposing then c else (c.leave index).noteDisposal index

variable {c : Custody} {request : WatchRequest α}

theorem enlist_feeds : (c.enlist request).feeds =
    if request.options.liveness then c.feeds ++ [(c.nextFeed, request.name)] else c.feeds := by
  unfold enlist
  split <;> rfl

theorem enlist_size : (c.enlist request).size = c.size + 1 := by
  unfold enlist
  split <;> rfl

theorem enlist_tenure : (c.enlist request).tenure =
    Function.update c.tenure c.size (some (c.entrant request)) := by
  unfold enlist entrant
  cases registers : request.options.liveness <;>
    simp [join, setTenure, register, registers]

theorem enlist_entrant : (c.enlist request).tenure c.size = some (c.entrant request) := by
  rw [enlist_tenure, Function.update_self]

@[simp]
theorem enlist_attached : (c.enlist request).attached = c.attached := by
  unfold enlist
  split <;> rfl

@[simp]
theorem enlist_nextListener : (c.enlist request).nextListener = c.nextListener := by
  unfold enlist
  split <;> rfl

@[simp]
theorem enlist_released : (c.enlist request).released = c.released := by
  unfold enlist
  split <;> rfl

/-- A watcher joins, with a new feed if it was given the registry. -/
theorem FeedsSound.enlist (sound : FeedsSound own c.feeds c.nextFeed c.tenure)
    (fresh : c.tenure c.size = none) (request : WatchRequest α) :
    FeedsSound own (c.enlist request).feeds (c.enlist request).nextFeed
      (c.enlist request).tenure := by
  rw [enlist_tenure]
  cases registers : request.options.liveness with
  | true =>
    have feed : (c.entrant request).feed = some c.nextFeed := by simp [entrant, registers]
    simp only [Custody.enlist, registers, if_true]
    exact sound.join_registered fresh feed registers rfl
  | false =>
    have feed : (c.entrant request).feed = none := by simp [entrant, registers]
    simp only [Custody.enlist, registers, Bool.false_eq_true, if_false]
    exact sound.join fresh feed registers

theorem Sound.enlist (sound : Sound own c) (request : WatchRequest α) :
    Sound own (c.enlist request) where
  feeds := sound.feeds.enlist (sound.absent c.size (Nat.le_refl _)) request
  listeners := by
    have fresh := sound.absent c.size (Nat.le_refl _)
    rw [enlist_tenure, enlist_attached, enlist_nextListener, enlist_released]
    exact sound.listeners.amend_unheld (by rw [fresh, Option.bind_none]) rfl
  absent := by
    intro index outside
    rw [enlist_size] at outside
    rw [enlist_tenure, Function.update_of_ne (by omega)]
    exact sound.absent index (by omega)

theorem drop_feeds (feed : Option Nat) :
    (c.drop feed).feeds = c.feeds.filter fun entry => feed ≠ some entry.1 := by
  cases feed with
  | none => exact (List.filter_eq_self.2 fun entry _ => rfl).symm
  | some id =>
    refine List.filter_congr fun entry _ => decide_eq_decide.2 ?_
    exact not_congr ⟨fun same => congrArg some same.symm, fun same => (Option.some.inj same).symm⟩

theorem retire_eq (found : c.tenure index = some held) :
    c.retire index = (c.drop held.feed).setTenure index { held with retired := true } := by
  simp only [retire, found]

@[simp]
theorem drop_tenure (feed : Option Nat) : (c.drop feed).tenure = c.tenure := by
  cases feed <;> rfl

@[simp]
theorem drop_size (feed : Option Nat) : (c.drop feed).size = c.size := by
  cases feed <;> rfl

@[simp]
theorem drop_nextFeed (feed : Option Nat) : (c.drop feed).nextFeed = c.nextFeed := by
  cases feed <;> rfl

@[simp]
theorem drop_attached (feed : Option Nat) : (c.drop feed).attached = c.attached := by
  cases feed <;> rfl

@[simp]
theorem drop_nextListener (feed : Option Nat) :
    (c.drop feed).nextListener = c.nextListener := by
  cases feed <;> rfl

@[simp]
theorem drop_released (feed : Option Nat) : (c.drop feed).released = c.released := by
  cases feed <;> rfl

theorem retire_tenure (found : c.tenure index = some held) :
    (c.retire index).tenure = Function.update c.tenure index (some { held with retired := true }) := by
  simp only [retire_eq found, setTenure, drop_tenure]

theorem retire_feeds (found : c.tenure index = some held) :
    (c.retire index).feeds = c.feeds.filter fun entry => held.feed ≠ some entry.1 := by
  rw [retire_eq found]
  exact drop_feeds held.feed

/-- What leaving comes to, with and without a listener. -/
theorem leave_cases (found : c.tenure index = some held) :
    (held.listener = none ∧ c.leave index = c.retire index) ∨
      ∃ id, held.listener = some id ∧ c.leave index = (c.retire index).release id := by
  unfold leave
  rw [found, Option.bind_some]
  cases held.listener with
  | none => exact .inl ⟨rfl, rfl⟩
  | some id => exact .inr ⟨id, rfl, rfl⟩

theorem leave_tenure (found : c.tenure index = some held) :
    (c.leave index).tenure = Function.update c.tenure index (some { held with retired := true }) := by
  rcases leave_cases found with ⟨_, same⟩ | ⟨id, _, same⟩
  · rw [same, retire_tenure found]
  · rw [same]
    exact retire_tenure found

theorem leave_feeds (found : c.tenure index = some held) :
    (c.leave index).feeds = c.feeds.filter fun entry => held.feed ≠ some entry.1 := by
  rcases leave_cases found with ⟨_, same⟩ | ⟨id, _, same⟩
  · rw [same, retire_feeds found]
  · rw [same]
    exact retire_feeds found

theorem Sound.leave (sound : Sound own c) (found : c.tenure index = some held)
    (live : held.retired = false) : Sound own (c.leave index) where
  feeds := by
    have nextFeed : (c.leave index).nextFeed = c.nextFeed := by
      rcases leave_cases found with ⟨_, same⟩ | ⟨id, _, same⟩ <;>
        simp [same, retire_eq found, release, setTenure]
    rw [leave_feeds found, leave_tenure found, nextFeed]
    exact sound.feeds.retire found rfl rfl rfl
  listeners := by
    rw [leave_tenure found]
    rcases leave_cases found with ⟨none, same⟩ | ⟨id, holding, same⟩
    · rw [same, retire_eq found]
      simp only [setTenure, drop_attached, drop_nextListener, drop_released]
      exact sound.listeners.amend_unheld (by rw [found, Option.bind_some, none]) none
    · rw [same, retire_eq found]
      simp only [release, setTenure, drop_attached, drop_nextListener, drop_released]
      exact sound.listeners.part found holding live rfl rfl
  absent := by
    intro queried outside
    have size : (c.leave index).size = c.size := by
      rcases leave_cases found with ⟨_, same⟩ | ⟨id, _, same⟩ <;>
        simp [same, retire_eq found, release, setTenure]
    rw [size] at outside
    have different := Nat.ne_of_gt (Nat.lt_of_lt_of_le (sound.lt_size found) outside)
    rw [leave_tenure found, Function.update_of_ne different]
    exact sound.absent queried outside

theorem release_noteDisposal (id : Nat) :
    (c.release id).noteDisposal index = (c.noteDisposal index).release id := by
  unfold noteDisposal
  show (match c.tenure index with | none => _ | some _ => _) = _
  cases c.tenure index <;> rfl

theorem noteDisposal_eq (found : c.tenure index = some held) :
    c.noteDisposal index = c.setTenure index { held with disposing := true } := by
  simp only [noteDisposal, found]

theorem hold_eq (found : c.tenure index = some held) (id : Nat) :
    c.hold index id = c.setTenure index { held with listener := some id } := by
  simp only [hold, found]

theorem Sound.noteDisposal (sound : Sound own c) (found : c.tenure index = some held) :
    Sound own (c.noteDisposal index) where
  feeds := by
    rw [noteDisposal_eq found]
    exact sound.feeds.amend found rfl rfl rfl rfl
  listeners := by
    rw [noteDisposal_eq found]
    exact sound.listeners.amend found rfl rfl
  absent := by
    intro queried outside
    rw [noteDisposal_eq found] at outside ⊢
    have different := Nat.ne_of_gt (Nat.lt_of_lt_of_le (sound.lt_size found) outside)
    simp only [setTenure, Function.update_of_ne different]
    exact sound.absent queried outside

/-- A watcher that has joined and has its listener. -/
def resident (c : Custody) (request : WatchRequest α) : Tenure :=
  { c.entrant request with listener := some c.nextListener }

theorem welcome_eq (request : WatchRequest α) :
    c.welcome request = (((c.enlist request).attach request.address (.watcher c.size)).setTenure
      c.size (c.resident request)) := by
  have entered : ((c.enlist request).attach request.address (.watcher c.size)).tenure c.size =
      some (c.entrant request) := enlist_entrant
  exact hold_eq entered c.nextListener

theorem welcome_tenure : (c.welcome request).tenure =
    Function.update c.tenure c.size (some (c.resident request)) := by
  rw [welcome_eq]
  show Function.update (c.enlist request).tenure c.size _ = _
  rw [enlist_tenure, Function.update_idem]

theorem welcome_resident : (c.welcome request).tenure c.size = some (c.resident request) := by
  rw [welcome_tenure, Function.update_self]

/-- A watcher that leaves before it is given its listener only retires. -/
theorem enlist_leave (request : WatchRequest α) :
    (c.enlist request).leave c.size = (c.enlist request).retire c.size := by
  rw [leave, enlist_entrant]
  rfl

/-- One that has its listener asks for the removal of that. -/
theorem welcome_leave (request : WatchRequest α) : (c.welcome request).leave c.size =
    ((c.welcome request).retire c.size).release c.nextListener := by
  rw [leave, welcome_resident]
  rfl

theorem Sound.welcome (sound : Sound own c) (request : WatchRequest α) :
    Sound own (c.welcome request) where
  feeds := by
    have entered := (sound.enlist request).feeds
    rw [welcome_eq]
    exact entered.amend enlist_entrant rfl rfl rfl rfl
  listeners := by
    have entered := (sound.enlist request).listeners
    have before : ((c.enlist request).tenure c.size).bind (·.listener) = none := by
      rw [enlist_entrant]
      rfl
    rw [enlist_attached, enlist_nextListener, enlist_released] at entered
    rw [welcome_eq]
    simp only [setTenure, attach, enlist_attached, enlist_nextListener, enlist_released]
    exact entered.seat request.address before rfl rfl
  absent := by
    intro index outside
    have size : (c.welcome request).size = c.size + 1 := by
      rw [welcome_eq]
      exact enlist_size
    rw [size] at outside
    rw [welcome_tenure, Function.update_of_ne (by omega)]
    exact sound.absent index (by omega)

/-! ## Starts and disposals -/

/-- What a start comes to: nothing is taken, or a watcher joins and leaves again, with or without a
listener, or it stays. -/
inductive Starts (c : Custody) (request : WatchRequest α) : Except Fault Nat → Custody → Prop
  | refused (fault : Fault) : Starts c request (.error fault) c
  | unheard (fault : Fault) : Starts c request (.error fault) ((c.enlist request).leave c.size)
  | released (fault : Fault) : Starts c request (.error fault) ((c.welcome request).leave c.size)
  | started : Starts c request (.ok c.size) (c.welcome request)

/-- Nothing is different but for watchers that have joined and left again. -/
structure Restored (c next : Custody) : Prop where
  feeds : next.feeds = c.feeds
  tenure : ∀ index held, c.tenure index = some held → next.tenure index = some held
  live : ∀ index, next.Live index → c.Live index
  attached : c.attached ⊆ next.attached

theorem Restored.refl (c : Custody) : Restored c c := ⟨rfl, fun _ _ => id, fun _ => id, fun _ => id⟩

theorem filter_entered_feeds (below : ∀ entry ∈ c.feeds, entry.1 < c.nextFeed)
    (request : WatchRequest α) :
    (c.enlist request).feeds.filter (fun entry => (c.entrant request).feed ≠ some entry.1) =
      c.feeds := by
  rw [enlist_feeds, entrant]
  cases request.options.liveness with
  | false => exact List.filter_eq_self.2 fun entry _ => rfl
  | true =>
    have stays : c.feeds.filter (fun entry => some c.nextFeed ≠ some entry.1) = c.feeds := by
      refine List.filter_eq_self.2 fun entry member => decide_eq_true fun same => ?_
      exact Nat.lt_irrefl _ (Option.some.inj same ▸ below entry member)
    simp only [if_true, List.filter_append, stays]
    simp

theorem welcome_feeds : (c.welcome request).feeds = (c.enlist request).feeds := by
  rw [welcome_eq]
  rfl

theorem welcome_attached : (c.welcome request).attached =
    c.attached ++ [⟨c.nextListener, request.address, .watcher c.size⟩] := by
  rw [welcome_eq]
  simp [setTenure, attach]

theorem leave_attached (index : Nat) : (c.leave index).attached = c.attached := by
  cases found : c.tenure index with
  | none => simp only [leave, retire, found, Option.bind_none]
  | some held =>
    rcases leave_cases found with ⟨_, same⟩ | ⟨id, _, same⟩ <;>
      simp [same, retire_eq found, release, setTenure]

/-- A watcher that joins and leaves again leaves everything as it was. -/
theorem restored_of_left {entered : Custody} (sound : Sound own c)
    (tenure : entered.tenure = Function.update c.tenure c.size (some held))
    (feeds : entered.feeds = (c.enlist request).feeds)
    (feed : held.feed = (c.entrant request).feed) (attached : c.attached ⊆ entered.attached) :
    Restored c (entered.leave c.size) := by
  have found : entered.tenure c.size = some held := by rw [tenure, Function.update_self]
  refine ⟨?_, ?_, ?_, by rwa [leave_attached]⟩
  · rw [leave_feeds found, feeds, feed]
    exact filter_entered_feeds sound.feeds.below request
  · intro index old there
    have different := Nat.ne_of_lt (sound.lt_size there)
    rw [leave_tenure found, Function.update_of_ne different, tenure,
      Function.update_of_ne different, there]
  · rintro index ⟨now, there, live⟩
    rw [leave_tenure found] at there
    rcases update_cases there with ⟨_, rfl⟩ | ⟨different, old⟩
    · cases live
    · rw [tenure, Function.update_of_ne different] at old
      exact ⟨now, old, live⟩

theorem Starts.restored {fault : Fault} {next : Custody} (sound : Sound own c)
    (starts : Starts c request (.error fault) next) : Sound own next ∧ Restored c next := by
  cases starts with
  | refused => exact ⟨sound, .refl c⟩
  | unheard =>
    refine ⟨(sound.enlist request).leave enlist_entrant rfl,
      restored_of_left sound enlist_tenure rfl rfl ?_⟩
    rw [enlist_attached]
    exact List.Subset.refl _
  | released =>
    refine ⟨(sound.welcome request).leave welcome_resident rfl,
      restored_of_left sound welcome_tenure welcome_feeds rfl ?_⟩
    rw [welcome_attached]
    exact List.subset_append_left _ _

theorem Starts.of_ok {next : Custody} {answer : Nat} (starts : Starts c request (.ok answer) next) :
    answer = c.size ∧ next = c.welcome request := by
  cases starts
  exact ⟨rfl, rfl⟩

theorem dispose_again (found : c.tenure index = some held) (disposing : held.disposing = true) :
    c.dispose index = c := by
  simp only [dispose, found, disposing, if_true]

theorem dispose_first (found : c.tenure index = some held) (disposing : held.disposing = false) :
    c.dispose index = (c.leave index).noteDisposal index := by
  simp only [dispose, found, disposing, Bool.false_eq_true, if_false]

theorem leave_found (found : c.tenure index = some held) :
    (c.leave index).tenure index = some { held with retired := true } := by
  rw [leave_tenure found, Function.update_self]

/-- A watcher that is disposed for the first time when it retires. -/
theorem Sound.dispose (sound : Sound own c) (found : c.tenure index = some held)
    (once : held.disposing = held.retired) : Sound own (c.dispose index) := by
  cases disposing : held.disposing with
  | true => rwa [dispose_again found disposing]
  | false =>
    rw [dispose_first found disposing]
    exact (sound.leave found (once.symm.trans disposing)).noteDisposal (leave_found found)

theorem dispose_tenure (found : c.tenure index = some held) (once : held.disposing = held.retired) :
    (c.dispose index).tenure =
      Function.update c.tenure index (some { held with retired := true, disposing := true }) := by
  cases disposing : held.disposing with
  | true =>
    have same : { held with retired := true, disposing := true } = held := by
      rcases held with ⟨name, registers, feed, listener, retired, isDisposing⟩
      obtain rfl : isDisposing = true := disposing
      obtain rfl : true = retired := once
      rfl
    rw [dispose_again found disposing, same, ← found, Function.update_eq_self]
  | false =>
    rw [dispose_first found disposing, noteDisposal_eq (leave_found found)]
    simp only [setTenure, leave_tenure found, Function.update_idem]

theorem dispose_attached (index : Nat) : (c.dispose index).attached = c.attached := by
  cases found : c.tenure index with
  | none => simp only [dispose, found]
  | some held =>
    cases disposing : held.disposing with
    | true => rw [dispose_again found disposing]
    | false =>
      rw [dispose_first found disposing, noteDisposal_eq (leave_found found)]
      exact leave_attached index

theorem live_dispose_iff (found : c.tenure index = some held)
    (once : held.disposing = held.retired) (queried : Nat) :
    (c.dispose index).Live queried ↔ c.Live queried ∧ queried ≠ index := by
  unfold Live
  rw [dispose_tenure found once]
  by_cases same : queried = index
  · subst same
    simp
  · rw [Function.update_of_ne same]
    exact ⟨fun live => ⟨live, same⟩, And.left⟩

theorem live_welcome_iff (request : WatchRequest α) (queried : Nat) :
    (c.welcome request).Live queried ↔ c.Live queried ∨ queried = c.size := by
  unfold Live
  rw [welcome_tenure]
  by_cases same : queried = c.size
  · subst same
    simp [resident, entrant]
  · rw [Function.update_of_ne same]
    simp [same]

/-- A watcher that is disposed because its sibling could not start. -/
theorem Restored.of_sibling {next : Custody} (sound : Sound own c) (sound_next : Sound own next)
    (failed : Restored (c.welcome request) next) :
    Sound own (next.dispose c.size) ∧ Restored c (next.dispose c.size) := by
  have found : next.tenure c.size = some (c.resident request) :=
    failed.tenure c.size _ welcome_resident
  refine ⟨sound_next.dispose found rfl, ?_, ?_, ?_, ?_⟩
  · rw [dispose_first found rfl, noteDisposal_eq (leave_found found)]
    show (next.leave c.size).feeds = c.feeds
    rw [leave_feeds found, failed.feeds, welcome_feeds]
    exact filter_entered_feeds sound.feeds.below request
  · intro index old there
    have different := Nat.ne_of_lt (sound.lt_size there)
    rw [dispose_tenure found rfl, Function.update_of_ne different]
    refine failed.tenure index old ?_
    rw [welcome_tenure, Function.update_of_ne different, there]
  · intro index live
    obtain ⟨live_next, different⟩ := (live_dispose_iff found rfl index).1 live
    exact ((live_welcome_iff request index).1 (failed.live index live_next)).resolve_right different
  · rw [dispose_attached]
    refine List.Subset.trans ?_ failed.attached
    rw [welcome_attached]
    exact List.subset_append_left _ _

end Custody
end SlabBook

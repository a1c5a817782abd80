import SlabBook.Proofs.Runs

/-!
# Stored versions

The trace recounts what was stored: the table holds the last version stored at an address unless the
account was removed, and a fetch returns what the table holds when it looks.
-/

namespace SlabBook

variable {α : Type}

/-- The version that the event stores at the address. -/
def Event.stored? (address : Address) : Event → Option Stored
  | .changed (.store place version) => if place = address then some version else none
  | .changed (.publish place version) => if place = address then some version else none
  | _ => none

namespace Connection

variable {connection : Connection} {address place : Address} {version : Stored}

theorem lookup_cons_of_ne {entry : Address × Stored} {rest : List (Address × Stored)}
    (different : address ≠ entry.1) : (entry :: rest).lookup address = rest.lookup address := by
  obtain ⟨key, version⟩ := entry
  simp only [List.lookup_cons, beq_false_of_ne different]

theorem lookup_cons_of_eq {entry : Address × Stored} {rest : List (Address × Stored)}
    (same : address = entry.1) : (entry :: rest).lookup address = some entry.2 := by
  subst same
  exact List.lookup_cons_self

theorem find?_forget_of_ne (different : address ≠ place) :
    (connection.forget place).find? address = connection.find? address := by
  simp only [find?, forget]
  induction connection.table with
  | nil => rfl
  | cons entry rest ih =>
    by_cases forgotten : entry.1 = place
    · rw [List.filter_cons_of_neg (by simp [forgotten]), ih,
        lookup_cons_of_ne (forgotten ▸ different)]
    · rw [List.filter_cons_of_pos (by simp [forgotten])]
      by_cases here : address = entry.1
      · rw [lookup_cons_of_eq here, lookup_cons_of_eq here]
      · rw [lookup_cons_of_ne here, lookup_cons_of_ne here, ih]

theorem find?_forget_self : (connection.forget place).find? place = none := by
  rw [find?, forget, List.lookup_eq_none_iff]
  intro entry member
  have other : entry.1 ≠ place := of_decide_eq_true (List.mem_filter.1 member).2
  simp [Ne.symm other]

theorem find?_store_of_ne (different : address ≠ place) :
    (connection.store place version).find? address = connection.find? address :=
  (lookup_cons_of_ne different).trans (find?_forget_of_ne different)

theorem find?_store_self : (connection.store place version).find? place = some version :=
  List.lookup_cons_self

end Connection

namespace Session

variable {s next : Session α} {address : Address}

/-- The versions stored at an address, the oldest first. -/
def versions (address : Address) (events : List Event) : List Stored :=
  events.filterMap (Event.stored? address)

theorem versions_append (address : Address) (earlier later : List Event) :
    versions address (earlier ++ later) = versions address earlier ++ versions address later :=
  List.filterMap_append

theorem versions_subset {earlier later : List Event} (grown : earlier ⊆ later) :
    versions address earlier ⊆ versions address later := by
  intro version member
  obtain ⟨event, seen, stores⟩ := List.mem_filterMap.1 member
  exact List.mem_filterMap.2 ⟨event, grown seen, stores⟩

/-- The table and the answers of fetches follow from the trace. -/
structure Recounts (s : Session α) : Prop where
  current : ∀ address version, s.connection.find? address = some version →
    (versions address s.events).getLast? = some version
  answered : ∀ address account, .returned address (some account) ∈ s.events →
    ∃ version ∈ versions address s.events, account = version.account address

theorem recounts_start (clock allowedSilence : Int) (commitment : Commitment) :
    Recounts (.start clock allowedSilence commitment : Session α) where
  current := fun address version found => by cases found
  answered := fun address account returned => by cases returned

/-- What becomes of the version held for an address and of the versions stored there. -/
inductive Restocked (before after : Option Stored) (earlier later : List Stored) : Prop
  | kept (found : after = before) (versions : later = earlier) :
      Restocked before after earlier later
  | removed (absent : after = none) : Restocked before after earlier later
  | stored (version : Stored) (found : after = some version)
      (versions : later = earlier ++ [version]) : Restocked before after earlier later

theorem restocked_store (connection : Connection) (address place : Address) (version : Stored)
    (earlier : List Stored) :
    Restocked (connection.find? address) ((connection.store place version).find? address) earlier
      (earlier ++ if place = address then [version] else []) := by
  by_cases here : place = address
  · subst here
    exact .stored version Connection.find?_store_self (by rw [if_pos rfl])
  · exact .kept (Connection.find?_store_of_ne (Ne.symm here)) (by rw [if_neg here, List.append_nil])

theorem versions_changed {place : Address} {version : Stored} {change : Change}
    (stores : change = .store place version ∨ change = .publish place version) :
    versions address [.changed change] = if place = address then [version] else [] := by
  rcases stores with rfl | rfl <;> by_cases here : place = address <;>
    simp [versions, Event.stored?, here]

theorem versions_concat_of_none {event : Event} (events : List Event)
    (stores : event.stored? address = none) :
    versions address (events ++ [event]) = versions address events := by
  simp [versions, stores]

/-- A move changes the table in the way that its event says. -/
theorem Move.restocked (move : Move s next) (address : Address) :
    Restocked (s.connection.find? address) (next.connection.find? address)
      (versions address s.events) (versions address next.events) := by
  cases move with
  | frame trace watchers table listeners =>
    refine .kept ?_ (by rw [events, events, trace])
    rw [Connection.find?, Connection.find?, table]
  | note event quiet =>
    refine .kept rfl ?_
    rw [events_record]
    exact versions_concat_of_none _ (by cases event <;> simp_all [Event.stored?, Event.Quiet])
  | change change =>
    rw [events_changed]
    cases change with
    | store place version =>
      rw [versions_append, versions_changed (.inl rfl)]
      exact restocked_store s.connection address place version _
    | publish place version =>
      rw [versions_append, versions_changed (.inr rfl)]
      exact restocked_store s.connection address place version _
    | announce place version => exact .kept rfl (versions_concat_of_none _ rfl)
    | remove place =>
      by_cases here : address = place
      · subst here
        exact .removed Connection.find?_forget_self
      · exact .kept (Connection.find?_forget_of_ne here) (versions_concat_of_none _ rfl)
    | advance elapsed => exact .kept rfl (versions_concat_of_none _ rfl)
  | answer place answered current =>
    refine .kept rfl ?_
    rw [events_record]
    exact versions_concat_of_none _ rfl
  | attach place sink aimed =>
    refine .kept rfl ?_
    rw [events_attachListener]
    exact versions_concat_of_none _ rfl
  | hear version listener attached =>
    refine .kept (by rw [hear_connection]) ?_
    rw [events_hear]
    exact versions_concat_of_none _ rfl
  | enlist request value account returned decoded => exact .kept rfl rfl
  | reread index watcher account found returned => exact .kept rfl rfl
  | tend index watcher changed found request watch => exact .kept rfl rfl

theorem Move.answered (move : Move s next) {found : Option Account}
    (returned : .returned address found ∈ next.events) :
    .returned address found ∈ s.events ∨
      found = (s.connection.find? address).map fun version => version.account address := by
  cases move with
  | frame trace watchers table listeners =>
    exact .inl (by rwa [events, trace] at returned)
  | note event quiet =>
    rw [events_record, List.mem_append, List.mem_singleton] at returned
    refine .inl (returned.resolve_right ?_)
    rintro rfl
    exact quiet
  | change change =>
    rw [events_changed, List.mem_append, List.mem_singleton] at returned
    exact .inl (returned.resolve_right (by simp))
  | answer place answered current =>
    rw [events_record, List.mem_append, List.mem_singleton] at returned
    rcases returned with old | fresh
    · exact .inl old
    · cases fresh
      exact .inr current
  | attach place sink aimed =>
    rw [events_attachListener, List.mem_append, List.mem_singleton] at returned
    exact .inl (returned.resolve_right (by simp))
  | hear version listener attached =>
    rw [events_hear, List.mem_append, List.mem_singleton] at returned
    exact .inl (returned.resolve_right (by simp))
  | enlist request value account known decoded => exact .inl returned
  | reread index watcher account there known => exact .inl returned
  | tend index watcher changed there request watch => exact .inl returned

theorem Move.recounts (move : Move s next) (recounts : Recounts s) : Recounts next where
  current := by
    intro address version found
    cases move.restocked address with
    | kept same grown =>
      rw [same] at found
      rw [grown]
      exact recounts.current address version found
    | removed absent =>
      rw [absent] at found
      cases found
    | stored newest fresh grown =>
      rw [fresh] at found
      cases found
      rw [grown, List.getLast?_concat]
  answered := by
    intro address account returned
    have grown : versions address s.events ⊆ versions address next.events :=
      versions_subset move.events_prefix.subset
    rcases move.answered returned with old | fresh
    · obtain ⟨version, member, same⟩ := recounts.answered address account old
      exact ⟨version, grown member, same⟩
    · obtain ⟨version, held, same⟩ := Option.map_eq_some_iff.1 fresh.symm
      have member := List.mem_of_getLast? (recounts.current address version held)
      exact ⟨version, grown member, same.symm⟩

theorem Moves.recounts (moves : Moves s next) (recounts : Recounts s) : Recounts next := by
  induction moves with
  | refl => exact recounts
  | tail _ move ih => exact move.recounts ih

end Session
end SlabBook

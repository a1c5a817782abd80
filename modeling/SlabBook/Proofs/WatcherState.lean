import SlabBook.Proofs.HeldListeners

/-!
# The state of a watcher

What a watcher has of its own is its watch, and its feed in the registry.  This state depends on
nothing but what happens to the watcher: what it hears, at which time, and its disposal.

* `WatcherState.after`, `WatcherState.occurrences` — what a row of incidents makes of a state, and how
  the watch reacts;
* `WatcherState.after_upTo` — nothing counts after the disposal;
* `WatcherState.alike` — times count for nothing but the feed.
-/

namespace SlabBook

/-! ## The first part of a list -/

section UpTo

variable {α β : Type} [DecidableEq α] [DecidableEq β] {last : α}

/-- The items up to the first one that is the given one, inclusive. -/
def upTo (last : α) : List α → List α
  | [] => []
  | item :: rest => if item = last then [item] else item :: upTo last rest

theorem upTo_of_not_mem {items : List α} (absent : last ∉ items) : upTo last items = items := by
  induction items with
  | nil => rfl
  | cons item rest ih =>
    rw [List.mem_cons, not_or] at absent
    rw [upTo, if_neg (Ne.symm absent.1), ih absent.2]

theorem upTo_append_of_mem {items : List α} (member : last ∈ items) (more : List α) :
    upTo last (items ++ more) = upTo last items := by
  induction items with
  | nil => cases member
  | cons item rest ih =>
    rw [List.cons_append, upTo, upTo]
    split
    · rfl
    · rename_i different
      rw [ih ((List.mem_cons.1 member).resolve_left (Ne.symm different))]

theorem upTo_append_of_not_mem {items : List α} (absent : last ∉ items) (more : List α) :
    upTo last (items ++ more) = items ++ upTo last more := by
  induction items with
  | nil => rfl
  | cons item rest ih =>
    rw [List.mem_cons, not_or] at absent
    rw [List.cons_append, upTo, if_neg (Ne.symm absent.1), ih absent.2, List.cons_append]

theorem mem_upTo_iff {items : List α} : last ∈ upTo last items ↔ last ∈ items := by
  induction items with
  | nil => rfl
  | cons item rest ih =>
    rw [upTo]
    split
    · rename_i same
      simp [same]
    · simp [ih]

theorem mem_of_mem_upTo {item : α} {items : List α} (member : item ∈ upTo last items) :
    item ∈ items := by
  induction items with
  | nil => cases member
  | cons first rest ih =>
    rw [upTo] at member
    split at member
    · exact List.mem_singleton.1 member ▸ List.mem_cons_self ..
    · exact (List.mem_cons.1 member).elim (fun same => same ▸ List.mem_cons_self ..)
        fun later => List.mem_cons_of_mem _ (ih later)

/-- Nothing comes before the item. -/
theorem upTo_of_forall {items : List α} (only : ∀ item ∈ upTo last items, item = last) :
    upTo last items = if last ∈ items then [last] else [] := by
  cases items with
  | nil => rfl
  | cons item rest =>
    have first : item = last := by
      refine only item ?_
      rw [upTo]
      split <;> exact List.mem_cons_self ..
    rw [upTo, if_pos first, first, if_pos (List.mem_cons_self ..)]

theorem upTo_map {f : α → β} (only : ∀ item, f item = f last → item = last) (items : List α) :
    upTo (f last) (items.map f) = (upTo last items).map f := by
  induction items with
  | nil => rfl
  | cons item rest ih =>
    rw [List.map_cons, upTo, upTo, ih]
    by_cases same : item = last
    · rw [if_pos (congrArg f same), if_pos same, List.map_singleton]
    · rw [if_neg fun equal => same (only item equal), if_neg same, List.map_cons]

/-- Rows that agree up to the item go on agreeing as long as they are extended alike. -/
theorem upTo_append_congr {items others more rest : List α}
    (same : upTo last items = upTo last others)
    (same_still : last ∉ items → upTo last more = upTo last rest) :
    upTo last (items ++ more) = upTo last (others ++ rest) := by
  have iff : last ∈ items ↔ last ∈ others := by rw [← mem_upTo_iff, same, mem_upTo_iff]
  by_cases member : last ∈ items
  · rw [upTo_append_of_mem member, upTo_append_of_mem (iff.1 member), same]
  · have absent := mt iff.2 member
    rw [upTo_append_of_not_mem member, upTo_append_of_not_mem absent, same_still member]
    rw [upTo_of_not_mem member, upTo_of_not_mem absent] at same
    rw [same]

end UpTo

/-! ## Incidents -/

/-- What can happen to a watcher once it is started. -/
inductive Incident where
  | heard (time : Int) (account : Account)
  | disposal
  deriving DecidableEq, Repr

namespace Incident

def input : Incident → Input
  | .heard _ account => .notified account
  | .disposal => .disposal

/-- The account that is heard. -/
def account? : Incident → Option Account
  | .heard _ account => some account
  | .disposal => none

theorem eq_disposal {incident : Incident} (same : incident.input = input .disposal) :
    incident = .disposal := by
  cases incident with
  | heard time account => cases same
  | disposal => rfl

theorem upTo_input (incidents : List Incident) :
    upTo Input.disposal (incidents.map input) = (upTo .disposal incidents).map input :=
  upTo_map (f := input) (fun _ => eq_disposal) incidents

end Incident

/-- The update was applied, skipped as stale or dropped as malformed. -/
def Occurrence.decided {ε : Type} : Occurrence ε → Bool
  | ⟨_, .ignored⟩ => false
  | _ => true

/-- Watches that are alike and go through the same inputs stay alike, and react in the same way. -/
theorem Watch.Course.alike {α ε : Type} {decode : Account → Except ε α}
    {watch other next after : Watch α} {history same : List (Occurrence ε)}
    (course : Course decode watch history next) (course_too : Course decode other same after)
    (alike : Alike watch other) (inputs : history.map (·.input) = same.map (·.input)) :
    Alike next after ∧ history = same := by
  induction course generalizing after same with
  | rest =>
    cases course_too with
    | rest => exact ⟨alike, rfl⟩
    | meets => simp at inputs
  | meets course meets ih =>
    cases course_too with
    | rest => simp at inputs
    | meets course_too meets_too =>
      rw [List.map_append, List.map_append] at inputs
      obtain ⟨earlier, last⟩ := List.append_inj' inputs rfl
      obtain ⟨alike_before, rfl⟩ := ih course_too earlier
      obtain ⟨alike_after, rfl⟩ := meets.alike alike_before meets_too (List.cons.inj last).1
      exact ⟨alike_after, rfl⟩

/-! ## States -/

/-- What a watcher has of its own: what is asked of it, its watch, and its feed in the registry. -/
structure WatcherState (α : Type) where
  request : WatchRequest α
  watch : Watch (Snapshot α)
  feed : Option Feed

namespace WatcherState

variable {α : Type} {state other : WatcherState α} {incident : Incident}

/-- Hearing anything counts as life, unless the watcher is disposed.  A disposal ends the feed. -/
def step (state : WatcherState α) : Incident → WatcherState α
  | .heard time account =>
    { state with
      watch := (state.watch.notify state.request.format.decode time account).1
      feed :=
        if state.watch.disposed then state.feed
        else state.feed.map fun feed => { feed with lastActiveAt := some time } }
  | .disposal => { state with watch := state.watch.dispose, feed := none }

def reaction (state : WatcherState α) : Incident → Reaction PayloadError
  | .heard time account => (state.watch.notify state.request.format.decode time account).2
  | .disposal => .ignored

def after (state : WatcherState α) (incidents : List Incident) : WatcherState α :=
  incidents.foldl step state

/-- The incidents and what the state makes of each. -/
def occurrences (state : WatcherState α) : List Incident → List (Occurrence PayloadError)
  | [] => []
  | incident :: rest =>
    ⟨incident.input, state.reaction incident⟩ :: (state.step incident).occurrences rest

/-- The updates that were applied, skipped or dropped. -/
def decisions (state : WatcherState α) (incidents : List Incident) : List (Occurrence PayloadError) :=
  (state.occurrences incidents).filter Occurrence.decided

@[simp]
theorem request_step (state : WatcherState α) (incident : Incident) :
    (state.step incident).request = state.request := by
  cases incident <;> rfl

theorem request_after (state : WatcherState α) (incidents : List Incident) :
    (state.after incidents).request = state.request := by
  induction incidents generalizing state with
  | nil => rfl
  | cons incident rest ih => exact (ih _).trans (request_step state incident)

theorem after_append (state : WatcherState α) (earlier later : List Incident) :
    state.after (earlier ++ later) = (state.after earlier).after later :=
  List.foldl_append

theorem map_input_occurrences (state : WatcherState α) (incidents : List Incident) :
    (state.occurrences incidents).map (·.input) = incidents.map Incident.input := by
  induction incidents generalizing state with
  | nil => rfl
  | cons incident rest ih => simp [occurrences, ih]

/-- What a state is notified of is what it hears. -/
theorem filterMap_notice?_occurrences (state : WatcherState α) (incidents : List Incident) :
    (state.occurrences incidents).filterMap Occurrence.notice? =
      incidents.filterMap Incident.account? := by
  induction incidents generalizing state with
  | nil => rfl
  | cons incident rest ih =>
    cases incident with
    | heard time account => exact congrArg (account :: ·) (ih _)
    | disposal => exact ih _

/-- No incident is a reading. -/
theorem filterMap_reading?_occurrences (state : WatcherState α) (incidents : List Incident) :
    (state.occurrences incidents).filterMap Occurrence.reading? = [] := by
  induction incidents generalizing state with
  | nil => rfl
  | cons incident rest ih => cases incident <;> exact ih _

theorem meets (state : WatcherState α) (incident : Incident) :
    Watch.Meets state.request.format.decode state.watch ⟨incident.input, state.reaction incident⟩
      (state.step incident).watch := by
  cases incident with
  | heard time account => exact .notified time account
  | disposal => exact .disposal

/-- The watch of a state goes through the occurrences. -/
theorem course (state : WatcherState α) (incidents : List Incident) :
    Watch.Course state.request.format.decode state.watch (state.occurrences incidents)
      (state.after incidents).watch := by
  induction incidents generalizing state with
  | nil => exact .rest
  | cons incident rest ih =>
    have onward := ih (state.step incident)
    rw [request_step] at onward
    exact (state.meets incident).course.trans onward

theorem disposed_step :
    (state.step incident).watch.disposed = true ↔
      state.watch.disposed = true ∨ incident = .disposal := by
  cases incident with
  | heard time account => simp [step, Watch.disposed_notify]
  | disposal => simp [step, Watch.dispose]

theorem disposed_after (state : WatcherState α) (incidents : List Incident) :
    (state.after incidents).watch.disposed = true ↔
      state.watch.disposed = true ∨ .disposal ∈ incidents := by
  induction incidents generalizing state with
  | nil => simp [after]
  | cons incident rest ih =>
    rw [List.mem_cons, ← or_assoc, eq_comm (a := Incident.disposal), ← disposed_step]
    exact ih _

/-- A live state stays so until its disposal. -/
theorem live_after {incidents : List Incident} (live : state.watch.disposed = false)
    (undisposed : .disposal ∉ incidents) : (state.after incidents).watch.disposed = false := by
  refine Bool.eq_false_iff.2 fun gone => ?_
  rcases (state.disposed_after incidents).1 gone with before | disposal
  · rw [live] at before
    cases before
  · exact undisposed disposal

/-! ## After the disposal -/

/-- The state is disposed and has no feed any more. -/
structure Ended (state : WatcherState α) : Prop where
  disposed : state.watch.disposed = true
  feed : state.feed = none

theorem ended_disposal (state : WatcherState α) : (state.step .disposal).Ended := ⟨rfl, rfl⟩

theorem Ended.step (ended : state.Ended) (incident : Incident) :
    state.step incident = state ∧ state.reaction incident = .ignored := by
  obtain ⟨request, ⟨cell, slot, disposed⟩, feed⟩ := state
  obtain ⟨gone, none⟩ := ended
  obtain rfl : disposed = true := gone
  obtain rfl : feed = .none := none
  cases incident with
  | heard time account => exact ⟨rfl, rfl⟩
  | disposal => exact ⟨rfl, rfl⟩

/-- A state that has ended stays as it is. -/
theorem Ended.after (ended : state.Ended) (incidents : List Incident) :
    state.after incidents = state ∧ state.decisions incidents = [] := by
  induction incidents with
  | nil => exact ⟨rfl, rfl⟩
  | cons incident rest ih =>
    obtain ⟨same, ignored⟩ := ended.step incident
    have rest_ignored : (state.occurrences rest).filter Occurrence.decided = [] := ih.2
    refine ⟨?_, ?_⟩
    · show (state.step incident).after rest = state
      rw [same, ih.1]
    · rw [decisions, occurrences, same, ignored, List.filter_cons_of_neg (by simp [Occurrence.decided]),
        rest_ignored]

/-- A state ends with its disposal. -/
theorem ended_after (ended : state.watch.disposed = true → state.Ended) {incidents : List Incident}
    (disposed : (state.after incidents).watch.disposed = true) : (state.after incidents).Ended := by
  induction incidents generalizing state with
  | nil => exact ended disposed
  | cons incident rest ih =>
    refine ih (fun gone => ?_) disposed
    rcases disposed_step.1 gone with before | rfl
    · rw [((ended before).step incident).1]
      exact ended before
    · exact state.ended_disposal

/-- What comes after the first disposal leaves no mark and is not decided upon. -/
theorem after_upTo (state : WatcherState α) (incidents : List Incident) :
    state.after (upTo .disposal incidents) = state.after incidents ∧
      state.decisions (upTo .disposal incidents) = state.decisions incidents := by
  induction incidents generalizing state with
  | nil => exact ⟨rfl, rfl⟩
  | cons incident rest ih =>
    rw [upTo]
    by_cases last : incident = .disposal
    · subst last
      obtain ⟨same, undecided⟩ := state.ended_disposal.after rest
      have rest_undecided :
          ((state.step .disposal).occurrences rest).filter Occurrence.decided = [] := undecided
      rw [if_pos rfl]
      refine ⟨same.symm, ?_⟩
      simp only [decisions, occurrences, List.filter_cons, rest_undecided, List.filter_nil]
    · obtain ⟨same, decided⟩ := ih (state.step incident)
      rw [if_neg last]
      refine ⟨same, ?_⟩
      have decided : ((state.step incident).occurrences (upTo .disposal rest)).filter
          Occurrence.decided = ((state.step incident).occurrences rest).filter
            Occurrence.decided := decided
      simp only [decisions, occurrences, List.filter_cons, decided]

/-- States that go through the same incidents up to their disposal end the same and decide the same. -/
theorem same_of_upTo (state : WatcherState α) {incidents others : List Incident}
    (same : upTo .disposal incidents = upTo .disposal others) :
    state.after incidents = state.after others ∧ state.decisions incidents = state.decisions others := by
  have first := state.after_upTo incidents
  have second := state.after_upTo others
  rw [← first.1, ← second.1, ← first.2, ← second.2, same]
  exact ⟨rfl, rfl⟩

/-! ## Other times -/

/-- At other times the watches come out alike, and the reactions are the same. -/
theorem alike (alike : Watch.Alike state.watch other.watch) (request : state.request = other.request)
    {incidents others : List Incident}
    (inputs : incidents.map Incident.input = others.map Incident.input) :
    Watch.Alike (state.after incidents).watch (other.after others).watch ∧
      state.occurrences incidents = other.occurrences others :=
  (state.course incidents).alike (request ▸ other.course others) alike
    (by rw [map_input_occurrences, map_input_occurrences, inputs])

end WatcherState
end SlabBook

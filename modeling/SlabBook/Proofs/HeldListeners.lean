import SlabBook.Proofs.WatchedFeeds

/-!
# A watcher that holds a listener

A watcher keeps the listener that it was given when it was started.  Operations that start other
watchers, and disposals of any, leave it with the watcher, and nobody else ever holds it.

* `Holding` — the watcher holds the listener, and the changes to come are of a certain kind;
* `Phase.holding`, `Operates.holding` — what a phase and a step of a script leave of that.
-/

namespace SlabBook

variable {α : Type}

namespace Custody

variable {c next : Custody} {index id position : Nat} {held changed : Tenure}

/-- Of all watchers this one holds the listener, which was given before.  If its disposal has begun it
has retired. -/
structure Holds (c : Custody) (index id : Nat) : Prop where
  seat : ∃ held, c.tenure index = some held ∧ held.listener = some id ∧
    (held.disposing = true → held.retired = true)
  sole : ∀ position held, c.tenure position = some held → held.listener = some id →
    position = index
  given : id < c.nextListener

/-- The rest of the custody counts for nothing but the number of the next listener. -/
theorem Holds.of_eq (holds : c.Holds index id) (tenure : next.tenure = c.tenure)
    (given : c.nextListener ≤ next.nextListener) : next.Holds index id where
  seat := tenure ▸ holds.seat
  sole := tenure ▸ holds.sole
  given := Nat.lt_of_lt_of_le holds.given given

/-- One tenure is set, to one that has the listener if it is that of the watcher. -/
theorem Holds.set (holds : c.Holds index id)
    (tenure : next.tenure = Function.update c.tenure position (some changed))
    (given : c.nextListener ≤ next.nextListener)
    (agrees : changed.listener = some id ↔ position = index)
    (ended : position = index → changed.disposing = true → changed.retired = true) :
    next.Holds index id where
  seat := by
    rw [tenure]
    obtain ⟨held, found, listener, gone⟩ := holds.seat
    by_cases same : position = index
    · subst same
      exact ⟨changed, Function.update_self .., agrees.2 rfl, ended rfl⟩
    · exact ⟨held, (Function.update_of_ne (Ne.symm same) ..).trans found, listener, gone⟩
  sole := by
    rw [tenure]
    intro queried other found listener
    rcases update_cases found with ⟨rfl, rfl⟩ | ⟨_, old⟩
    · exact agrees.1 listener
    · exact holds.sole queried other old listener
  given := Nat.lt_of_lt_of_le holds.given given

theorem Holds.iff (holds : c.Holds index id) (found : c.tenure position = some held) :
    held.listener = some id ↔ position = index := by
  constructor
  · exact holds.sole position held found
  · rintro rfl
    obtain ⟨other, there, listener, _⟩ := holds.seat
    cases found.symm.trans there
    exact listener

/-- A watcher changes and holds what it held. -/
theorem Holds.amend (holds : c.Holds index id) (found : c.tenure position = some held)
    (tenure : next.tenure = Function.update c.tenure position (some changed))
    (given : c.nextListener ≤ next.nextListener) (same : changed.listener = held.listener)
    (retired : changed.retired = true) : next.Holds index id :=
  holds.set tenure given (same ▸ holds.iff found) fun _ _ => retired

theorem Holds.enlist {request : WatchRequest α} (holds : c.Holds index id)
    (fresh : c.tenure c.size = none) : (c.enlist request).Holds index id := by
  refine holds.set enlist_tenure (Nat.le_of_eq enlist_nextListener.symm) ?_ fun _ => nofun
  refine iff_of_false nofun ?_
  rintro rfl
  obtain ⟨held, found, _⟩ := holds.seat
  cases fresh.symm.trans found

/-- Another watcher is given another listener. -/
theorem Holds.hold (holds : c.Holds index id) (elsewhere : position ≠ index) {other : Nat}
    (different : other ≠ id) : (c.hold position other).Holds index id := by
  cases found : c.tenure position with
  | none =>
    simp only [Custody.hold, found]
    exact holds
  | some held =>
    rw [hold_eq found]
    exact holds.set rfl (Nat.le_refl _)
      (iff_of_false (fun same => different (Option.some.inj same)) elsewhere)
      fun same => absurd same elsewhere

theorem Holds.retire (holds : c.Holds index id) (position : Nat) :
    (c.retire position).Holds index id := by
  cases found : c.tenure position with
  | none =>
    simp only [Custody.retire, found]
    exact holds
  | some held =>
    refine holds.amend found (retire_tenure found) ?_ rfl rfl
    rw [retire_eq found]
    exact Nat.le_of_eq (drop_nextListener _).symm

theorem Holds.dispose (holds : c.Holds index id) (position : Nat) :
    (c.dispose position).Holds index id := by
  cases found : c.tenure position with
  | none =>
    simp only [Custody.dispose, found]
    exact holds
  | some held =>
  cases disposing : held.disposing with
  | true => rwa [dispose_again found disposing]
  | false =>
    have left : (c.leave position).Holds index id := by
      rcases leave_cases found with ⟨_, same⟩ | ⟨_, _, same⟩
      · exact same ▸ holds.retire position
      · exact same ▸ (holds.retire position).of_eq rfl (Nat.le_refl _)
    have there := leave_found found
    rw [dispose_first found disposing, noteDisposal_eq there]
    exact left.amend there rfl (Nat.le_refl _) rfl rfl

end Custody

namespace Session

variable {allowed : Change → Prop} {index id : Nat} {s next : Session α}

/-- The watcher holds the listener, and the changes that wait in the queue are of this kind. -/
structure Holding (allowed : Change → Prop) (index id : Nat) (s : Session α) : Prop where
  plans : s.connection.Expects allowed
  holds : s.custody.Holds index id

/-- Where nothing is said of the changes that wait. -/
theorem Holding.any (holding : Holding allowed index id s) : Holding (fun _ => True) index id s :=
  ⟨s.connection.expects_any, holding.holds⟩

/-- The watcher that holds the listener is there. -/
theorem Holding.found (holding : Holding allowed index id s) :
    ∃ watcher, s.watchers[index]? = some watcher ∧ watcher.listener = some id ∧
      (watcher.disposal.isSome = true → watcher.watch.disposed = true) := by
  obtain ⟨held, found, listener, gone⟩ := holding.holds.seat
  obtain ⟨watcher, there, rfl⟩ := Script.tenure_eq_some_iff.1 found
  exact ⟨watcher, there, listener, gone⟩

theorem Holding.lt_size (holding : Holding allowed index id s) : index < s.watchers.size := by
  obtain ⟨watcher, there, _⟩ := holding.found
  exact lt_size_of_found there

/-- What an operation may touch that neither starts this watcher nor owns its listener. -/
def Scope.apart (allowed : Change → Prop) (index id : Nat) : Scope :=
  ⟨allowed, (· ≠ index), (· ≠ id)⟩

theorem Holding.admits (holding : Holding allowed index id s) :
    Admits (.apart allowed index id) s where
  plans := holding.plans
  fresh _ outside := Nat.ne_of_gt (Nat.lt_of_lt_of_le holding.lt_size outside)
  loose _ unknown := Nat.ne_of_gt (Nat.lt_of_lt_of_le holding.holds.given unknown)

/-- A change of any kind leaves the watcher with its listener. -/
theorem holding_change (holding : Holding allowed index id s) (change : Change) :
    Holding allowed index id (s.change change) := by
  refine ⟨?_, (custody_change change).symm ▸ holding.holds⟩
  unfold Connection.Expects
  rw [change_plans]
  exact holding.plans

theorem Phase.holding (phase : Phase (.apart allowed index id) s next)
    (holding : Holding allowed index id s) : Holding allowed index id next := by
  have holds := holding.holds
  refine ⟨phase.proceeds.plans holding.plans, ?_⟩
  cases phase with
  | call phase => exact (custody_callPhase phase).symm ▸ holds
  | attach address sink aims fresh =>
    rw [custody_attachListener]
    exact holds.of_eq rfl (Nat.le_succ _)
  | ask other loose =>
    rw [custody_unsubscribed]
    exact holds.of_eq rfl (Nat.le_refl _)
  | detach other loose => exact holds.of_eq rfl (Nat.le_refl _)
  | enlist request value account returned decoded fresh =>
    rw [custody_enlist]
    exact holds.enlist (custody_absent (Array.getElem?_eq_none (Nat.le_refl _)))
  | hold position other elsewhere different =>
    rw [custody_holdListener]
    exact holds.hold elsewhere different
  | takeUp position request second fresh awaits returned =>
    exact (custody_takeUp request second).symm ▸ holds
  | retire position fresh => exact (custody_retire position).symm ▸ holds.retire position
  | leave position => exact (custody_leave position).symm ▸ holds.dispose position
  | finish position => exact (custody_finishDisposal position).symm ▸ holds

theorem Phases.holding (phases : Phases (.apart allowed index id) s next)
    (holding : Holding allowed index id s) : Holding allowed index id next := by
  induction phases with
  | refl => exact holding
  | tail _ phase ih => exact phase.holding ih

/-- The rest of the session counts for nothing. -/
theorem holding_of_same (holding : Holding allowed index id s)
    (watchers : next.watchers = s.watchers) (connection : next.connection = s.connection) :
    Holding allowed index id next := by
  refine ⟨connection.symm ▸ holding.plans, holding.holds.of_eq ?_ ?_⟩
  · simp only [custody, watchers]
  · simp only [custody, connection, Nat.le_refl]

theorem Operates.holding {calls : Bool} {own : List Nat}
    (operates : Operates (.apart allowed index id) calls own s next)
    (holding : Holding allowed index id s) : Holding allowed index id next := by
  cases operates with
  | phases phases => exact phases.holding holding
  | plan kind plan planned => exact ⟨holding.plans.queue kind planned, holding.holds.of_eq rfl
      (Nat.le_refl _)⟩
  | register called name => exact holding_of_same holding rfl rfl
  | ping called other mine => exact holding_of_same holding rfl rfl
  | drop called other mine => exact holding_of_same holding rfl rfl

end Session
end SlabBook

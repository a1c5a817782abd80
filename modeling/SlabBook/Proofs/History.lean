import Mathlib.Data.List.Induction
import SlabBook.Proofs.Watch

/-!
# Histories of a watch

A watch is what its history made of it: a first reading, the accounts it was notified of, readings
taken later, and perhaps its disposal, each with what the watch made of it.

* `History.orderly`, `History.orderlyThroughout` — until its disposal a watch stands at the newest
  slot of its history, which decides about every account, and holds the account applied last;
* `History.exists_of_inserted`, `History.alike_of_inserted` — accounts that do not decode can be
  inserted anywhere and leave no mark.
-/

namespace SlabBook

/-- What can reach a watch. -/
inductive Input where
  | first (account : Account)
  | notified (account : Account)
  | reread (account : Account)
  | disposal
  deriving DecidableEq, Repr

/-- An input and what the watch made of it. -/
structure Occurrence (ε : Type) where
  input : Input
  reaction : Reaction ε
  deriving DecidableEq, Repr

namespace Input

def account? : Input → Option Account
  | .first account => some account
  | .notified account => some account
  | .reread account => some account
  | .disposal => none

end Input

namespace Occurrence

variable {α ε : Type}

/-- The slot of an account that decodes. -/
def slot? (decode : Account → Except ε α) (occurrence : Occurrence ε) : Option Int :=
  occurrence.input.account?.bind fun account =>
    if (decode account).isOk then account.slot else none

/-- The account of a notification. -/
def notice? (occurrence : Occurrence ε) : Option Account :=
  match occurrence.input with
  | .notified account => some account
  | _ => none

/-- The account of a reading. -/
def reading? (occurrence : Occurrence ε) : Option Account :=
  match occurrence.input with
  | .first account => some account
  | .reread account => some account
  | _ => none

/-- The account, if it was applied. -/
def applied? : Occurrence ε → Option Account
  | ⟨input, .applied⟩ => input.account?
  | _ => none

end Occurrence

namespace Watch

variable {α ε : Type} {decode : Account → Except ε α} {now : Int} {watch next : Watch α}
  {account : Account} {occurrence : Occurrence ε} {history : List (Occurrence ε)}

/-! ## One account, decided by slots -/

theorem notify_applied_iff (live : watch.disposed = false) :
    (watch.notify decode now account).2 = .applied ↔
      (decode account).isOk ∧ ∀ given ∈ account.slot, ∀ latest ∈ watch.slot, latest ≤ given := by
  rw [← newerThan?_eq_none_iff]
  simp only [notify, live, Bool.false_eq_true, if_false]
  cases watch.newerThan? account.slot with
  | some latest => simp
  | none =>
    simp only [apply]
    cases decode account <;> simp [Except.isOk, Except.toBool]

theorem catchUp_applied_iff :
    (watch.catchUp decode now account).2 = .applied ↔
      (decode account).isOk ∧ ∀ given ∈ account.slot, ∀ latest ∈ watch.slot, latest < given := by
  rw [← asNewAs?_eq_none_iff]
  simp only [catchUp]
  cases watch.asNewAs? account.slot with
  | some latest => simp
  | none =>
    simp only [apply]
    cases decode account <;> simp [Except.isOk, Except.toBool]

/-- The greater of two slots, if the account decodes. -/
theorem slot_apply (current : watch.slot ≤ account.slot ∨ account.slot = none) :
    (watch.apply decode now account).1.slot =
      max watch.slot (if (decode account).isOk then account.slot else none) := by
  simp only [apply]
  cases decode account with
  | error cause => cases watch.slot <;> rfl
  | ok value =>
    rcases current with reached | absent
    · cases given : account.slot with
      | none => cases watch.slot <;> rfl
      | some slot =>
        rw [given] at reached
        exact (Option.max_eq_left (fun _ _ => Int.max_eq_right) reached).symm
    · rw [absent]
      cases watch.slot <;> rfl

/-- What is passed over is no newer. -/
theorem slot_of_passed (passed : account.slot ≤ watch.slot) :
    watch.slot = max watch.slot (if (decode account).isOk then account.slot else none) := by
  split
  · exact (Option.max_eq_right (fun _ _ => Int.max_eq_left) passed).symm
  · cases watch.slot <;> rfl

theorem current_of_forall {slot : Option Int}
    (current : ∀ given ∈ slot, ∀ latest ∈ watch.slot, latest ≤ given) :
    watch.slot ≤ slot ∨ slot = none := by
  cases slot with
  | none => exact .inr rfl
  | some given =>
    cases newest : watch.slot with
    | none => exact .inl (by simp)
    | some latest => exact .inl (by simpa using current given rfl latest newest)

theorem slot_notify (live : watch.disposed = false) :
    (watch.notify decode now account).1.slot =
      max watch.slot (if (decode account).isOk then account.slot else none) := by
  simp only [notify, live, Bool.false_eq_true, if_false]
  cases older : watch.newerThan? account.slot with
  | some latest => exact slot_of_passed (slot_le_of_newerThan? older)
  | none => exact slot_apply (current_of_forall (newerThan?_eq_none_iff.1 older))

theorem slot_catchUp :
    (watch.catchUp decode now account).1.slot =
      max watch.slot (if (decode account).isOk then account.slot else none) := by
  simp only [catchUp]
  cases older : watch.asNewAs? account.slot with
  | some latest => exact slot_of_passed (slot_le_of_asNewAs? older)
  | none =>
    refine slot_apply (current_of_forall fun given slot latest newest => ?_)
    exact Int.le_of_lt (asNewAs?_eq_none_iff.1 older given slot latest newest)

/-! ## Histories -/

/-- One input and what the watch makes of it. -/
inductive Meets (decode : Account → Except ε α) (watch : Watch α) : Occurrence ε → Watch α → Prop
  | notified (now : Int) (account : Account) :
      Meets decode watch ⟨.notified account, (watch.notify decode now account).2⟩
        (watch.notify decode now account).1
  | reread (now : Int) (account : Account) :
      Meets decode watch ⟨.reread account, (watch.catchUp decode now account).2⟩
        (watch.catchUp decode now account).1
  | disposal : Meets decode watch ⟨.disposal, .ignored⟩ watch.dispose

/-- The watch has come of these occurrences, the first reading being the first. -/
inductive History (decode : Account → Except ε α) : Watch α → List (Occurrence ε) → Prop
  | first {account : Account} {value : α} (now : Int) (decoded : decode account = .ok value) :
      History decode (.seed value account.slot now) [⟨.first account, .applied⟩]
  | meets {watch next : Watch α} {earlier : List (Occurrence ε)} {occurrence : Occurrence ε}
      (history : History decode watch earlier) (meets : Meets decode watch occurrence next) :
      History decode next (earlier ++ [occurrence])

theorem History.ne_nil (lived : History decode watch history) : history ≠ [] := by
  cases lived with
  | first now decoded => exact List.cons_ne_nil _ _
  | meets earlier meets => exact List.append_ne_nil_of_right_ne_nil _ (List.cons_ne_nil _ _)

/-- A row of occurrences, in which a watch goes from one state to another. -/
inductive Course (decode : Account → Except ε α) (watch : Watch α) :
    List (Occurrence ε) → Watch α → Prop
  | rest : Course decode watch [] watch
  | meets {between next : Watch α} {earlier : List (Occurrence ε)} {occurrence : Occurrence ε}
      (course : Course decode watch earlier between)
      (meets : Meets decode between occurrence next) :
      Course decode watch (earlier ++ [occurrence]) next

theorem Meets.course (meets : Meets decode watch occurrence next) :
    Course decode watch [occurrence] next :=
  .meets .rest meets

theorem Course.trans {between : Watch α} {more : List (Occurrence ε)}
    (first : Course decode watch history between) (second : Course decode between more next) :
    Course decode watch (history ++ more) next := by
  induction second with
  | rest => rwa [List.append_nil]
  | meets course meets ih =>
    rw [← List.append_assoc]
    exact .meets ih meets

theorem History.course {more : List (Occurrence ε)} (lived : History decode watch history)
    (course : Course decode watch more next) : History decode next (history ++ more) := by
  induction course with
  | rest => rwa [List.append_nil]
  | meets course meets ih =>
    rw [← List.append_assoc]
    exact .meets ih meets

theorem History.concat_inv (lived : History decode watch (history ++ [occurrence]))
    (more : history ≠ []) :
    ∃ before, History decode before history ∧ Meets decode before occurrence watch := by
  generalize whole : history ++ [occurrence] = all at lived
  cases lived with
  | @first account value now decoded =>
    have cut : history ++ [occurrence] = [] ++ [⟨.first account, .applied⟩] := whole
    exact absurd (List.append_inj' cut rfl).1 more
  | meets earlier meets =>
    obtain ⟨rfl, same⟩ := List.append_inj' whole rfl
    obtain rfl := List.singleton_inj.1 same
    exact ⟨_, earlier, meets⟩

/-- A history up to an earlier moment, and what has happened since. -/
theorem History.split {earlier later : List (Occurrence ε)}
    (lived : History decode watch (earlier ++ later)) (begun : earlier ≠ []) :
    ∃ before, History decode before earlier ∧ Course decode before later watch := by
  induction later using List.reverseRecOn generalizing watch with
  | nil => exact ⟨watch, by rwa [List.append_nil] at lived, .rest⟩
  | append_singleton later occurrence ih =>
    rw [← List.append_assoc] at lived
    obtain ⟨between, lived, meets⟩ := lived.concat_inv (List.append_ne_nil_of_left_ne_nil begun _)
    obtain ⟨before, past, course⟩ := ih lived
    exact ⟨before, past, .meets course meets⟩

theorem applied?_eq_none {input : Input} {reaction : Reaction ε} (passed : reaction ≠ .applied) :
    (Occurrence.mk input reaction).applied? = none := by
  cases reaction with
  | applied => exact absurd rfl passed
  | ignored => rfl
  | stale latest => rfl
  | malformed cause => rfl

/-- What keeps the value was not applied, and what was applied gave the value. -/
theorem Meets.kept_or_decoded (meets : Meets decode watch occurrence next) :
    (occurrence.applied? = none ∧ next.latest = watch.latest) ∨
      ∃ account, occurrence.applied? = some account ∧ decode account = .ok next.latest := by
  cases meets with
  | notified now account =>
    rcases made : watch.notify decode now account with ⟨next, reaction⟩
    rcases notify_cases made with ⟨rfl, passed⟩ | ⟨rfl, took, _⟩
    · exact .inl ⟨applied?_eq_none passed, rfl⟩
    · exact .inr ⟨account, rfl, took.decoded⟩
  | reread now account =>
    rcases made : watch.catchUp decode now account with ⟨next, reaction⟩
    rcases catchUp_cases made with ⟨rfl, passed⟩ | ⟨rfl, took, _⟩
    · exact .inl ⟨applied?_eq_none passed, rfl⟩
    · exact .inr ⟨account, rfl, took.decoded⟩
  | disposal => exact .inl ⟨rfl, rfl⟩

/-- The value stays that of the account applied last. -/
theorem Meets.latest_concat (meets : Meets decode watch occurrence next)
    (held : ∃ account, (history.filterMap Occurrence.applied?).getLast? = some account ∧
      decode account = .ok watch.latest) :
    ∃ account, ((history ++ [occurrence]).filterMap Occurrence.applied?).getLast? = some account ∧
      decode account = .ok next.latest := by
  rw [List.filterMap_append]
  rcases meets.kept_or_decoded with ⟨passed, same⟩ | ⟨account, applied, decoded⟩
  · rw [List.filterMap_cons_none passed, List.filterMap_nil, List.append_nil, same]
    exact held
  · rw [List.filterMap_cons_some applied, List.filterMap_nil, List.getLast?_concat]
    exact ⟨account, rfl, decoded⟩

/-- Disposed or not, a watch holds the value of the account applied last. -/
theorem History.latest (lived : History decode watch history) :
    ∃ account, (history.filterMap Occurrence.applied?).getLast? = some account ∧
      decode account = .ok watch.latest := by
  induction lived with
  | first now decoded => exact ⟨_, rfl, decoded⟩
  | meets earlier meets ih => exact meets.latest_concat ih

/-- Only accounts that decode were ever applied. -/
theorem History.decodes_of_applied (lived : History decode watch history) {account : Account}
    (applied : account ∈ history.filterMap Occurrence.applied?) :
    ∃ value, decode account = .ok value := by
  induction lived with
  | first now decoded =>
    obtain rfl := List.mem_singleton.1 applied
    exact ⟨_, decoded⟩
  | meets earlier meets ih =>
    rw [List.filterMap_append, List.mem_append] at applied
    rcases applied with before | now
    · exact ih before
    · obtain ⟨occurrence, member, taken⟩ := List.mem_filterMap.1 now
      obtain rfl := List.mem_singleton.1 member
      rcases meets.kept_or_decoded with ⟨passed, -⟩ | ⟨other, applied, decoded⟩
      · cases passed.symm.trans taken
      · obtain rfl := Option.some.inj (applied.symm.trans taken)
        exact ⟨_, decoded⟩

theorem History.disposed_iff (lived : History decode watch history) :
    watch.disposed = true ↔ ∃ occurrence ∈ history, occurrence.input = .disposal := by
  induction lived with
  | first now decoded => simp [seed]
  | meets earlier meets ih =>
    simp only [List.mem_append, List.mem_singleton, or_and_right, exists_or, ← ih,
      exists_eq_left]
    cases meets with
    | notified now account => simp [disposed_notify]
    | reread now account => simp [disposed_catchUp]
    | disposal => simp [dispose]

/-- The greatest slot of all accounts that decode, whether they were applied or not. -/
def newest (decode : Account → Except ε α) (history : List (Occurrence ε)) : Option Int :=
  (history.filterMap (Occurrence.slot? decode)).max?

theorem max?_concat (slots : List Int) (slot : Int) :
    (slots ++ [slot]).max? = max slots.max? (some slot) := by
  cases slots with
  | nil => rfl
  | cons first rest =>
    rw [List.cons_append, List.max?_cons', List.max?_cons', List.foldl_append]
    rfl

theorem newest_concat (history : List (Occurrence ε)) (occurrence : Occurrence ε) :
    newest decode (history ++ [occurrence]) =
      max (newest decode history) (occurrence.slot? decode) := by
  rw [newest, List.filterMap_append]
  cases slot : occurrence.slot? decode with
  | none =>
    rw [List.filterMap_cons_none slot, List.filterMap_nil, List.append_nil, newest]
    cases (history.filterMap (Occurrence.slot? decode)).max? <;> rfl
  | some given =>
    rw [List.filterMap_cons_some slot, List.filterMap_nil, max?_concat]
    rfl

theorem newest_le_append (earlier later : List (Occurrence ε)) :
    newest decode earlier ≤ newest decode (earlier ++ later) := by
  induction later generalizing earlier with
  | nil =>
    rw [List.append_nil]
    exact slot_le_refl _
  | cons occurrence rest ih =>
    have grown := ih (earlier ++ [occurrence])
    rw [newest_concat, List.append_assoc, List.singleton_append] at grown
    exact slot_le_trans (Option.left_le_max Int.le_refl fun _ _ => Int.le_max_left _ _) grown

/-- A cut before an item of a list whose last item is known. -/
theorem cut_concat {β : Type} {list earlier later : List β} {last item : β}
    (cut : list ++ [last] = earlier ++ item :: later) :
    (list = earlier ∧ last = item) ∨ ∃ rest, list = earlier ++ item :: rest := by
  rcases List.eq_nil_or_concat later with rfl | ⟨rest, final, rfl⟩
  · obtain ⟨same, tails⟩ := List.append_inj' cut rfl
    exact .inl ⟨same, List.singleton_inj.1 tails⟩
  · rw [List.concat_eq_append, ← List.cons_append, ← List.append_assoc] at cut
    exact .inr ⟨rest, (List.append_inj' cut rfl).1⟩

theorem cut_singleton {β : Type} {earlier later : List β} {only item : β}
    (cut : [only] = earlier ++ item :: later) : only = item := by
  cases earlier with
  | nil => exact (List.cons.inj cut).1
  | cons head tail => simp at cut

/-- How a live watch stands to its history.  Its slot is the greatest one of all accounts that
decode, a notification is applied unless its slot lies before that, a later reading unless its slot
does not lie after it, and its value is that of the account applied last. -/
structure Orderly (decode : Account → Except ε α) (watch : Watch α)
    (history : List (Occurrence ε)) : Prop where
  slot : watch.slot = newest decode history
  rising : ∀ earlier later, history = earlier ++ later →
    newest decode earlier ≤ newest decode history
  notified : ∀ earlier account reaction later,
    history = earlier ++ ⟨.notified account, reaction⟩ :: later →
      (reaction = .applied ↔ (decode account).isOk ∧
        ∀ given ∈ account.slot, ∀ latest ∈ newest decode earlier, latest ≤ given)
  reread : ∀ earlier account reaction later,
    history = earlier ++ ⟨.reread account, reaction⟩ :: later →
      (reaction = .applied ↔ (decode account).isOk ∧
        ∀ given ∈ account.slot, ∀ latest ∈ newest decode earlier, latest < given)
  latest : ∃ account, (history.filterMap Occurrence.applied?).getLast? = some account ∧
    decode account = .ok watch.latest

theorem orderly_first {value : α} (decoded : decode account = .ok value) :
    Orderly decode (.seed value account.slot now) [⟨.first account, .applied⟩] where
  slot := by
    simp only [newest, List.filterMap_cons, Occurrence.slot?, Input.account?, Option.bind_some,
      decoded, Except.isOk, Except.toBool, if_true, List.filterMap_nil, seed]
    cases account.slot <;> rfl
  rising := by
    intro earlier later cut
    rw [cut]
    exact newest_le_append earlier later
  notified := by
    intro earlier other reaction later cut
    cases cut_singleton cut
  reread := by
    intro earlier other reaction later cut
    cases cut_singleton cut
  latest := ⟨account, rfl, decoded⟩

theorem Meets.live (meets : Meets decode watch occurrence next) (live : next.disposed = false) :
    watch.disposed = false := by
  cases meets with
  | notified now account => exact disposed_notify.symm.trans live
  | reread now account => exact disposed_catchUp.symm.trans live
  | disposal => cases live

theorem Course.live (course : Course decode watch history next)
    (live : next.disposed = false) : watch.disposed = false := by
  induction course with
  | rest => exact live
  | meets course meets ih => exact ih (meets.live live)

/-- What takes no reading and does not dispose the watch is a row of notifications. -/
theorem Course.inputs_eq_notices (course : Course decode watch history next)
    (live : next.disposed = false) (unread : history.filterMap Occurrence.reading? = []) :
    history.map (·.input) = (history.filterMap Occurrence.notice?).map .notified := by
  induction course with
  | rest => rfl
  | meets course meets ih =>
    rw [List.filterMap_append, List.append_eq_nil_iff] at unread
    rw [List.map_append, ih (meets.live live) unread.1, List.filterMap_append, List.map_append]
    cases meets with
    | notified now account => rfl
    | reread now account => cases unread.2
    | disposal => cases live

theorem Orderly.meets (orderly : Orderly decode watch history)
    (meets : Meets decode watch occurrence next) (live : next.disposed = false) :
    Orderly decode next (history ++ [occurrence]) where
  slot := by
    rw [newest_concat, ← orderly.slot]
    cases meets with
    | notified now account => exact slot_notify (disposed_notify.symm.trans live)
    | reread now account => exact slot_catchUp
    | disposal => cases live
  rising := by
    intro earlier later cut
    rw [cut]
    exact newest_le_append earlier later
  notified := by
    intro earlier account reaction later cut
    rcases cut_concat cut with ⟨rfl, rfl⟩ | ⟨rest, cut⟩
    · rw [← orderly.slot]
      cases meets with
      | notified now account => exact notify_applied_iff (disposed_notify.symm.trans live)
    · exact orderly.notified earlier account reaction rest cut
  reread := by
    intro earlier account reaction later cut
    rcases cut_concat cut with ⟨rfl, rfl⟩ | ⟨rest, cut⟩
    · rw [← orderly.slot]
      cases meets with
      | reread now account => exact catchUp_applied_iff
    · exact orderly.reread earlier account reaction rest cut
  latest := meets.latest_concat orderly.latest

theorem History.orderly (lived : History decode watch history) (live : watch.disposed = false) :
    Orderly decode watch history := by
  induction lived with
  | first now decoded => exact orderly_first decoded
  | meets earlier meets ih => exact (ih (meets.live live)).meets meets live

/-- The watch stood orderly at every moment of its history before its disposal. -/
def OrderlyThroughout (decode : Account → Except ε α) (watch : Watch α)
    (history : List (Occurrence ε)) : Prop :=
  ∀ earlier later, history = earlier ++ later → earlier ≠ [] →
    (∀ occurrence ∈ earlier, occurrence.input ≠ .disposal) →
      ∃ before, Course decode before later watch ∧ before.disposed = false ∧
        Orderly decode before earlier

theorem History.orderlyThroughout (lived : History decode watch history) :
    OrderlyThroughout decode watch history := by
  rintro earlier later rfl begun undisposed
  obtain ⟨before, past, course⟩ := lived.split begun
  have live : before.disposed = false := by
    rw [← Bool.not_eq_true, past.disposed_iff]
    rintro ⟨occurrence, member, disposal⟩
    exact undisposed occurrence member disposal
  exact ⟨before, course, live, past.orderly live⟩

/-! ## Inserted accounts -/

/-- The second list is the first with extra items inserted behind its first item. -/
inductive Inserted {β : Type} (extra : β → Prop) : List β → List β → Prop
  | start (item : β) : Inserted extra [item] [item]
  | keep {plain noisy : List β} (item : β) (inserted : Inserted extra plain noisy) :
      Inserted extra (plain ++ [item]) (noisy ++ [item])
  | insert {plain noisy : List β} (item : β) (excess : extra item)
      (inserted : Inserted extra plain noisy) : Inserted extra plain (noisy ++ [item])

/-- The input is an account that does not decode, though not the first one. -/
def Refused (decode : Account → Except ε α) : Input → Prop
  | .notified account => ¬ (decode account).isOk
  | .reread account => ¬ (decode account).isOk
  | _ => False

/-- An account that does not decode was not applied. -/
def PassedOver (decode : Account → Except ε α) (occurrence : Occurrence ε) : Prop :=
  Refused decode occurrence.input ∧ occurrence.reaction ≠ .applied

/-- The watches differ in nothing but times: they hold the same value at the same slot, and one is
disposed if the other is. -/
structure Alike (watch other : Watch α) : Prop where
  latest : watch.latest = other.latest
  slot : watch.slot = other.slot
  disposed : watch.disposed = other.disposed

theorem alike_apply {other : Watch α} (alike : Alike watch other)
    (decode : Account → Except ε α) (now later : Int) (account : Account) :
    Alike (watch.apply decode now account).1 (other.apply decode later account).1 ∧
      (watch.apply decode now account).2 = (other.apply decode later account).2 := by
  simp only [apply]
  cases decode account with
  | error cause => exact ⟨alike, rfl⟩
  | ok value => exact ⟨⟨rfl, congrArg account.slot.or alike.slot, alike.disposed⟩, rfl⟩

/-- Watches that are alike make the same of a notification and stay alike. -/
theorem alike_notify {other : Watch α} (alike : Alike watch other)
    (decode : Account → Except ε α) (now later : Int) (account : Account) :
    Alike (watch.notify decode now account).1 (other.notify decode later account).1 ∧
      (watch.notify decode now account).2 = (other.notify decode later account).2 := by
  have older : watch.newerThan? account.slot = other.newerThan? account.slot := by
    simp only [newerThan?, alike.slot]
  simp only [notify, older, ← alike.disposed]
  split
  · exact ⟨alike, rfl⟩
  · cases other.newerThan? account.slot with
    | some latest => exact ⟨alike, rfl⟩
    | none => exact alike_apply alike decode now later account

theorem alike_catchUp {other : Watch α} (alike : Alike watch other)
    (decode : Account → Except ε α) (now later : Int) (account : Account) :
    Alike (watch.catchUp decode now account).1 (other.catchUp decode later account).1 ∧
      (watch.catchUp decode now account).2 = (other.catchUp decode later account).2 := by
  have older : watch.asNewAs? account.slot = other.asNewAs? account.slot := by
    simp only [asNewAs?, alike.slot]
  simp only [catchUp, older]
  cases other.asNewAs? account.slot with
  | some latest => exact ⟨alike, rfl⟩
  | none => exact alike_apply alike decode now later account

/-- An account that does not decode leaves the whole watch as it was. -/
theorem Meets.of_refused (meets : Meets decode watch occurrence next)
    (refused : Refused decode occurrence.input) :
    next = watch ∧ occurrence.reaction ≠ .applied := by
  cases meets with
  | notified now account =>
    rcases made : watch.notify decode now account with ⟨next, reaction⟩
    rcases notify_cases made with same | ⟨_, took, _⟩
    · exact same
    · exact absurd (by rw [took.decoded]; rfl) refused
  | reread now account =>
    rcases made : watch.catchUp decode now account with ⟨next, reaction⟩
    rcases catchUp_cases made with same | ⟨_, took, _⟩
    · exact same
    · exact absurd (by rw [took.decoded]; rfl) refused
  | disposal => exact refused.elim

theorem Meets.not_first (meets : Meets decode watch occurrence next) :
    occurrence.input ≠ .first account := by
  cases meets <;> exact nofun

/-- Whatever comes after the first reading, a watch makes something of it. -/
theorem exists_meets (decode : Account → Except ε α) (watch : Watch α) {input : Input}
    (later : ∀ account, input ≠ .first account) :
    ∃ reaction next, Meets decode watch ⟨input, reaction⟩ next := by
  cases input with
  | first account => exact absurd rfl (later account)
  | notified account => exact ⟨_, _, .notified 0 account⟩
  | reread account => exact ⟨_, _, .reread 0 account⟩
  | disposal => exact ⟨_, _, .disposal⟩

theorem Meets.alike {other after : Watch α} {same : Occurrence ε} (alike : Alike watch other)
    (meets : Meets decode watch occurrence next) (meets_too : Meets decode other same after)
    (input : occurrence.input = same.input) : Alike next after ∧ occurrence = same := by
  cases meets with
  | notified now account =>
    cases meets_too with
    | notified later too =>
      cases input
      have made := alike_notify alike decode now later account
      exact ⟨made.1, congrArg (Occurrence.mk _) made.2⟩
    | reread later too => cases input
    | disposal => cases input
  | reread now account =>
    cases meets_too with
    | notified later too => cases input
    | reread later too =>
      cases input
      have made := alike_catchUp alike decode now later account
      exact ⟨made.1, congrArg (Occurrence.mk _) made.2⟩
    | disposal => cases input
  | disposal =>
    cases meets_too with
    | notified later too => cases input
    | reread later too => cases input
    | disposal => exact ⟨⟨alike.latest, alike.slot, rfl⟩, rfl⟩

theorem History.singleton_inv (lived : History decode watch [occurrence]) :
    ∃ account value now, decode account = .ok value ∧ watch = .seed value account.slot now ∧
      occurrence = ⟨.first account, .applied⟩ := by
  generalize whole : [occurrence] = all at lived
  cases lived with
  | @first account value now decoded =>
    exact ⟨account, value, now, decoded, rfl, List.singleton_inj.1 whole⟩
  | meets earlier meets =>
    have cut : [] ++ [occurrence] = _ ++ [_] := whole
    exact absurd (List.append_inj' cut rfl).1.symm earlier.ne_nil

theorem map_input_eq_concat {rest : List Input} {input : Input}
    (same : history.map (·.input) = rest ++ [input]) :
    ∃ earlier occurrence, history = earlier ++ [occurrence] ∧ earlier.map (·.input) = rest ∧
      occurrence.input = input := by
  obtain ⟨earlier, last, rfl, front, back⟩ := List.map_eq_append_iff.1 same
  obtain ⟨occurrence, rfl, named⟩ := List.map_eq_singleton_iff.1 back
  exact ⟨earlier, occurrence, rfl, front, named⟩

theorem Inserted.ne_nil {β : Type} {extra : β → Prop} {plain noisy : List β}
    (inserted : Inserted extra plain noisy) : plain ≠ [] ∧ noisy ≠ [] := by
  induction inserted with
  | start item => simp
  | keep item inserted ih => simp
  | insert item excess inserted ih => exact ⟨ih.1, by simp⟩

theorem ne_nil_of_map {rest : List Input} (front : history.map (·.input) = rest)
    (more : rest ≠ []) : history ≠ [] := by
  rintro rfl
  exact more front.symm

/-- Accounts that do not decode can be inserted anywhere behind the first reading. -/
theorem History.exists_of_inserted {inputs noisy : List Input}
    (lived : History decode watch history) (named : history.map (·.input) = inputs)
    (inserted : Inserted (Refused decode) inputs noisy) :
    ∃ other loud, History decode other loud ∧ loud.map (·.input) = noisy := by
  -- both lists grow at their ends, as histories do
  induction inserted generalizing history watch with
  | start input => exact ⟨watch, history, lived, named⟩
  | keep input inserted ih =>
    obtain ⟨earlier, occurrence, rfl, front, rfl⟩ := map_input_eq_concat named
    obtain ⟨before, lived, meets⟩ := lived.concat_inv (ne_nil_of_map front inserted.ne_nil.1)
    obtain ⟨other, loud, loud_lived, rfl⟩ := ih lived front
    obtain ⟨reaction, next, made⟩ := exists_meets decode other fun _ => meets.not_first
    exact ⟨next, _, loud_lived.meets made, by simp⟩
  | insert input refused inserted ih =>
    obtain ⟨other, loud, loud_lived, rfl⟩ := ih lived named
    have later : ∀ account, input ≠ .first account := by
      rintro account rfl
      exact refused
    obtain ⟨reaction, next, made⟩ := exists_meets decode other later
    exact ⟨next, _, loud_lived.meets made, by simp⟩

/-- Two watches whose histories differ by accounts that do not decode are alike, and made the same of
everything else. -/
theorem History.alike_of_inserted {other : Watch α} {loud : List (Occurrence ε)}
    {inputs noisy : List Input} (lived : History decode watch history)
    (lived_too : History decode other loud) (named : history.map (·.input) = inputs)
    (named_too : loud.map (·.input) = noisy) (inserted : Inserted (Refused decode) inputs noisy) :
    Alike watch other ∧ Inserted (PassedOver decode) history loud := by
  induction inserted generalizing history loud watch other with
  | start input =>
    obtain ⟨occurrence, rfl, rfl⟩ := List.map_eq_singleton_iff.1 named
    obtain ⟨same, rfl, input_eq⟩ := List.map_eq_singleton_iff.1 named_too
    obtain ⟨account, value, now, decoded, rfl, rfl⟩ := lived.singleton_inv
    obtain ⟨again, found, later, decoded_too, rfl, rfl⟩ := lived_too.singleton_inv
    cases input_eq
    cases decoded.symm.trans decoded_too
    exact ⟨⟨rfl, rfl, rfl⟩, .start _⟩
  | keep input inserted ih =>
    obtain ⟨earlier, occurrence, rfl, front, rfl⟩ := map_input_eq_concat named
    obtain ⟨before, lived, meets⟩ := lived.concat_inv (ne_nil_of_map front inserted.ne_nil.1)
    obtain ⟨earlier_too, same, rfl, front_too, same_input⟩ := map_input_eq_concat named_too
    obtain ⟨before_too, lived_too, meets_too⟩ :=
      lived_too.concat_inv (ne_nil_of_map front_too inserted.ne_nil.2)
    obtain ⟨alike, kept⟩ := ih lived lived_too front front_too
    obtain ⟨onward, rfl⟩ := meets.alike alike meets_too same_input.symm
    exact ⟨onward, .keep occurrence kept⟩
  | insert input refused inserted ih =>
    obtain ⟨earlier, occurrence, rfl, front, rfl⟩ := map_input_eq_concat named_too
    obtain ⟨before, lived_too, meets⟩ :=
      lived_too.concat_inv (ne_nil_of_map front inserted.ne_nil.2)
    obtain ⟨rfl, passed⟩ := meets.of_refused refused
    obtain ⟨alike, kept⟩ := ih lived lived_too named front
    exact ⟨alike, .insert occurrence ⟨refused, passed⟩ kept⟩

end Watch
end SlabBook

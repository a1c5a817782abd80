import SlabBook.Live.Watch

/-!
# Accounts that reach a watch

A watch takes an account whole or stays as it was.  Its slot never goes back, and an account that
decodes is never from a later slot than the watch it has reached.
-/

namespace SlabBook.Watch

variable {α ε : Type} {decode : Account → Except ε α} {now : Int} {watch next : Watch α}
  {account : Account} {reaction : Reaction ε}

/-- The account was decoded and its value and slot are now those of the watch; one without a slot
leaves the slot as it was. -/
structure Took (decode : Account → Except ε α) (account : Account) (watch next : Watch α) :
    Prop where
  decoded : decode account = .ok next.latest
  slot : next.slot = account.slot.or watch.slot
  disposed : next.disposed = watch.disposed

theorem newerThan?_eq_none_iff {slot : Option Int} :
    watch.newerThan? slot = none ↔
      ∀ given ∈ slot, ∀ newest ∈ watch.slot, newest ≤ given := by
  unfold newerThan?
  cases slot with
  | none => simp
  | some given =>
    cases watch.slot with
    | none => simp
    | some newest => simp

theorem asNewAs?_eq_none_iff {slot : Option Int} :
    watch.asNewAs? slot = none ↔
      ∀ given ∈ slot, ∀ newest ∈ watch.slot, newest < given := by
  unfold asNewAs?
  cases slot with
  | none => simp
  | some given =>
    cases watch.slot with
    | none => simp
    | some newest => simp

/-! ## One account -/

theorem apply_cases (made : watch.apply decode now account = (next, reaction)) :
    (∃ cause, decode account = .error cause ∧ reaction = .malformed cause ∧ next = watch) ∨
      (reaction = .applied ∧ Took decode account watch next) := by
  unfold apply at made
  cases decoded : decode account with
  | error cause =>
    simp only [decoded, Prod.mk.injEq] at made
    exact .inl ⟨cause, rfl, made.2.symm, made.1.symm⟩
  | ok value =>
    simp only [decoded, Prod.mk.injEq] at made
    obtain ⟨rfl, rfl⟩ := made
    exact .inr ⟨rfl, decoded, rfl, rfl⟩

/-- A notification changes a watch only if it is applied, and then it is not from an older slot. -/
theorem notify_cases (made : watch.notify decode now account = (next, reaction)) :
    (next = watch ∧ reaction ≠ .applied) ∨
      (reaction = .applied ∧ Took decode account watch next ∧
        watch.newerThan? account.slot = none) := by
  unfold notify at made
  split at made
  · cases made
    exact .inl ⟨rfl, by simp⟩
  · split at made
    · cases made
      exact .inl ⟨rfl, by simp⟩
    · rename_i current
      rcases apply_cases made with ⟨cause, _, rfl, rfl⟩ | ⟨applied, took⟩
      · exact .inl ⟨rfl, by simp⟩
      · exact .inr ⟨applied, took, current⟩

theorem notify_fst_cases (decode : Account → Except ε α) (now : Int) (watch : Watch α)
    (account : Account) :
    (watch.notify decode now account).1 = watch ∨
      (Took decode account watch (watch.notify decode now account).1 ∧
        watch.newerThan? account.slot = none) := by
  rcases notify_cases (Prod.eta (watch.notify decode now account)).symm with
    ⟨same, _⟩ | ⟨_, took, current⟩
  · exact .inl same
  · exact .inr ⟨took, current⟩

/-- A later reading changes a watch only if it is applied, and then it is from a newer slot. -/
theorem catchUp_cases (made : watch.catchUp decode now account = (next, reaction)) :
    (next = watch ∧ reaction ≠ .applied) ∨
      (reaction = .applied ∧ Took decode account watch next ∧
        watch.asNewAs? account.slot = none) := by
  unfold catchUp at made
  split at made
  · cases made
    exact .inl ⟨rfl, by simp⟩
  · rename_i current
    rcases apply_cases made with ⟨cause, _, rfl, rfl⟩ | ⟨applied, took⟩
    · exact .inl ⟨rfl, by simp⟩
    · exact .inr ⟨applied, took, current⟩

theorem catchUp_fst_cases (decode : Account → Except ε α) (now : Int) (watch : Watch α)
    (account : Account) :
    (watch.catchUp decode now account).1 = watch ∨
      (Took decode account watch (watch.catchUp decode now account).1 ∧
        watch.asNewAs? account.slot = none) := by
  rcases catchUp_cases (Prod.eta (watch.catchUp decode now account)).symm with
    ⟨same, _⟩ | ⟨_, took, current⟩
  · exact .inl same
  · exact .inr ⟨took, current⟩

/-! ## Slots -/

theorem slot_le_refl (slot : Option Int) : slot ≤ slot := by
  cases slot <;> simp

theorem slot_le_trans {first second third : Option Int} (lower : first ≤ second)
    (upper : second ≤ third) : first ≤ third := by
  cases first with
  | none => simp
  | some first =>
    cases second with
    | none => simp at lower
    | some second =>
      cases third with
      | none => simp at upper
      | some third =>
        simp only [Option.some_le_some] at lower upper ⊢
        exact Int.le_trans lower upper

theorem slot_not_le_of_lt {first second : Option Int} (below : first < second) :
    ¬ second ≤ first := by
  intro above
  cases first with
  | none =>
    cases second with
    | none => simp at below
    | some second => simp at above
  | some first =>
    cases second with
    | none => simp at below
    | some second =>
      simp only [Option.some_lt_some, Option.some_le_some] at below above
      omega

theorem Took.slot_le (took : Took decode account watch next)
    (current : ∀ given ∈ account.slot, ∀ newest ∈ watch.slot, newest ≤ given) :
    watch.slot ≤ next.slot := by
  rw [took.slot]
  cases given : account.slot with
  | none => cases watch.slot <;> simp
  | some slot =>
    cases newest : watch.slot with
    | none => simp
    | some latest =>
      have ordered := current slot (by simp [given]) latest (by simp [newest])
      simpa using ordered

theorem Took.account_slot_le (took : Took decode account watch next) :
    account.slot ≤ next.slot := by
  rw [took.slot]
  cases account.slot <;> simp

theorem slot_le_notify : watch.slot ≤ (watch.notify decode now account).1.slot := by
  rcases notify_fst_cases decode now watch account with same | ⟨took, current⟩
  · rw [same]
    exact slot_le_refl _
  · exact took.slot_le (newerThan?_eq_none_iff.1 current)

theorem slot_le_catchUp : watch.slot ≤ (watch.catchUp decode now account).1.slot := by
  rcases catchUp_fst_cases decode now watch account with same | ⟨took, current⟩
  · rw [same]
    exact slot_le_refl _
  · refine took.slot_le fun given slot newest latest => ?_
    exact Int.le_of_lt (asNewAs?_eq_none_iff.1 current given slot newest latest)

theorem disposed_notify : (watch.notify decode now account).1.disposed = watch.disposed := by
  rcases notify_fst_cases decode now watch account with same | ⟨took, _⟩
  · rw [same]
  · exact took.disposed

theorem disposed_catchUp : (watch.catchUp decode now account).1.disposed = watch.disposed := by
  rcases catchUp_fst_cases decode now watch account with same | ⟨took, _⟩
  · rw [same]
  · exact took.disposed

theorem slot_le_of_newerThan? {slot : Option Int} {newest : Int}
    (newer : watch.newerThan? slot = some newest) : slot ≤ watch.slot := by
  unfold newerThan? at newer
  split at newer
  · rename_i given latest latest_slot
    split at newer
    · rename_i below
      rw [latest_slot]
      simpa using Int.le_of_lt below
    · cases newer
  · cases newer

theorem slot_le_of_asNewAs? {slot : Option Int} {newest : Int}
    (asNew : watch.asNewAs? slot = some newest) : slot ≤ watch.slot := by
  unfold asNewAs? at asNew
  split at asNew
  · rename_i given latest latest_slot
    split at asNew
    · rename_i reached
      rw [latest_slot]
      simpa using reached
    · cases asNew
  · cases asNew

theorem account_slot_le_apply {value : α} (decoded : decode account = .ok value) :
    account.slot ≤ (watch.apply decode now account).1.slot := by
  rcases apply_cases (Prod.eta (watch.apply decode now account)).symm with
    ⟨cause, failed, _⟩ | ⟨_, took⟩
  · simp [decoded] at failed
  · exact took.account_slot_le

/-- A notification that decodes leaves a live watch at its own slot or at a later one. -/
theorem account_slot_le_notify {value : α} (live : watch.disposed = false)
    (decoded : decode account = .ok value) :
    account.slot ≤ (watch.notify decode now account).1.slot := by
  cases older : watch.newerThan? account.slot with
  | none =>
    simp only [notify, live, older, Bool.false_eq_true, if_false]
    exact account_slot_le_apply decoded
  | some newest =>
    simp only [notify, live, older, Bool.false_eq_true, if_false]
    exact slot_le_of_newerThan? older

/-- A later reading that decodes leaves a watch at its own slot or at a later one. -/
theorem account_slot_le_catchUp {value : α} (decoded : decode account = .ok value) :
    account.slot ≤ (watch.catchUp decode now account).1.slot := by
  cases older : watch.asNewAs? account.slot with
  | none =>
    simp only [catchUp, older]
    exact account_slot_le_apply decoded
  | some newest =>
    simp only [catchUp, older]
    exact slot_le_of_asNewAs? older

end SlabBook.Watch

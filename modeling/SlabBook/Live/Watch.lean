import SlabBook.Account
import SlabBook.Live.Cell

/-!
# Watching one account

A watch keeps the newest decoded value of an account and the newest slot it was taken from.  An
account from an older slot is passed over; one that cannot be decoded leaves value and slot as
they were.  A disposed watch never changes again.
-/

namespace SlabBook

structure Watch (α : Type) where
  cell : Cell α
  slot : Option Int
  disposed : Bool
  deriving DecidableEq, Repr

/-- What a watch made of an account that reached it. -/
inductive Reaction (ε : Type) where
  | ignored
  | stale (latest : Int)
  | malformed (cause : ε)
  | applied
  deriving DecidableEq, Repr

namespace Watch

variable {α ε : Type}

/-- A watch that begins with a first reading. -/
def seed (value : α) (slot : Option Int) (now : Int) : Watch α := ⟨.seed value now, slot, false⟩

def latest (watch : Watch α) : α := watch.cell.value

/-- The watch's slot, if the given slot lies before it. -/
def newerThan? (watch : Watch α) (slot : Option Int) : Option Int :=
  match slot, watch.slot with
  | some given, some newest => if given < newest then some newest else none
  | _, _ => none

/-- The watch's slot, if the given slot does not lie after it. -/
def asNewAs? (watch : Watch α) (slot : Option Int) : Option Int :=
  match slot, watch.slot with
  | some given, some newest => if given ≤ newest then some newest else none
  | _, _ => none

/-- An account without a slot leaves the slot as it was. -/
def apply (decode : Account → Except ε α) (now : Int) (watch : Watch α) (account : Account) :
    Watch α × Reaction ε :=
  match decode account with
  | .error cause => (watch, .malformed cause)
  | .ok value =>
    ({ watch with cell := watch.cell.write value now, slot := account.slot.or watch.slot },
      .applied)

/-- A change notification. -/
def notify (decode : Account → Except ε α) (now : Int) (watch : Watch α) (account : Account) :
    Watch α × Reaction ε :=
  if watch.disposed then (watch, .ignored)
  else
    match watch.newerThan? account.slot with
    | some newest => (watch, .stale newest)
    | none => watch.apply decode now account

/-- A reading taken once notifications are flowing; one of the same slot brings nothing new. -/
def catchUp (decode : Account → Except ε α) (now : Int) (watch : Watch α) (account : Account) :
    Watch α × Reaction ε :=
  match watch.asNewAs? account.slot with
  | some newest => (watch, .stale newest)
  | none => watch.apply decode now account

def dispose (watch : Watch α) : Watch α := { watch with disposed := true }

end Watch
end SlabBook

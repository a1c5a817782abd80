/-!
# Snapshot cells

A cell holds one value.  A write replaces it whole, counts itself and notes the time.
-/

namespace SlabBook

structure Cell (α : Type) where
  value : α
  version : Nat
  updatedAt : Int
  deriving DecidableEq, Repr

namespace Cell

/-- The first value is no write. -/
def seed {α : Type} (value : α) (now : Int) : Cell α := ⟨value, 0, now⟩

def write {α : Type} (cell : Cell α) (value : α) (now : Int) : Cell α :=
  ⟨value, cell.version + 1, now⟩

end Cell
end SlabBook

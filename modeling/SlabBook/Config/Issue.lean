import SlabBook.Number.Range

/-!
# Complaints about a configuration

A complaint names a variable and says what is wrong with it.  Values are checked independently of
each other, so that the complaints about all of them come together, in the order of the checks.
-/

namespace SlabBook

inductive VariableIssue where
  | missing
  | range (issue : RangeIssue)
  | notInteger
  | notPositive
  | tooShort (least : Nat)
  | notUrl
  | notCommitment (given : String)
  deriving DecidableEq, Repr

structure ConfigIssue where
  name : String
  issue : VariableIssue
  deriving DecidableEq, Repr

inductive IssueCode where
  | invalidType | tooSmall | tooBig | invalidString | invalidEnumValue
  deriving DecidableEq, Repr

/-- A checked value, or everything that is wrong with it. -/
abbrev Checked (α : Type) := Except (List ConfigIssue) α

namespace IssueCode

def toText : IssueCode → String
  | .invalidType => "invalid_type"
  | .tooSmall => "too_small"
  | .tooBig => "too_big"
  | .invalidString => "invalid_string"
  | .invalidEnumValue => "invalid_enum_value"

end IssueCode

namespace VariableIssue

def code : VariableIssue → IssueCode
  | .missing => .invalidType
  | .range .notANumber => .invalidType
  | .range .notWhole => .invalidType
  | .range (.below _) => .tooSmall
  | .range (.above _) => .tooBig
  | .notInteger => .invalidType
  | .notPositive => .tooSmall
  | .tooShort _ => .tooSmall
  | .notUrl => .invalidString
  | .notCommitment _ => .invalidEnumValue

def message : VariableIssue → String
  | .missing => "Required"
  | .range issue => issue.message
  | .notInteger => "Expected bigint, received string"
  | .notPositive => "Number must be greater than 0"
  | .tooShort least => s!"String must contain at least {least} character(s)"
  | .notUrl => "Invalid url"
  | .notCommitment given =>
    "Invalid enum value. Expected 'processed' | 'confirmed' | 'finalized', received '" ++
      given ++ "'"

end VariableIssue

namespace Checked

/-- Applies a checked function to a checked argument; the complaints of both are kept. -/
def apply {α β : Type} : Checked (α → β) → Checked α → Checked β
  | .ok f, .ok a => .ok (f a)
  | .ok _, .error issues => .error issues
  | .error issues, .ok _ => .error issues
  | .error issues, .error more => .error (issues ++ more)

theorem apply_eq_ok_iff {α β : Type} {f : Checked (α → β)} {x : Checked α} {b : β} :
    f.apply x = .ok b ↔ ∃ g a, f = .ok g ∧ x = .ok a ∧ g a = b := by
  cases f <;> cases x <;> simp [apply]

end Checked

end SlabBook

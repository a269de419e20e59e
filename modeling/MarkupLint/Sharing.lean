/-!
# Sharing

Values that change, and holders that look at them. Several holders may share one value; what one
of them changes, all of them see.
-/

namespace MarkupLint

/-- The values, and for every holder the index of the value that it looks at. -/
structure Shared (α : Type) where
  cells : List α
  holders : List Nat
deriving DecidableEq, Repr

namespace Shared

/-- No values and no holders. -/
def empty : Shared α := ⟨[], []⟩

/-- How many holders there are. The next one gets this number. -/
def count (shared : Shared α) : Nat := shared.holders.length

/-- Add a value with a holder of its own, the last one. -/
def create (shared : Shared α) (value : α) : Shared α :=
  ⟨shared.cells ++ [value], shared.holders ++ [shared.cells.length]⟩

/-- Add a holder, the last one, that looks at the same value as another one. -/
def share (shared : Shared α) (holder : Nat) : Shared α :=
  match shared.holders[holder]? with
  | none => shared
  | some cell => { shared with holders := shared.holders ++ [cell] }

/-- The value that a holder looks at. -/
def get? (shared : Shared α) (holder : Nat) : Option α :=
  shared.holders[holder]?.bind fun cell => shared.cells[cell]?

/-- Change the value that a holder looks at. -/
def modify (shared : Shared α) (holder : Nat) (change : α → α) : Shared α :=
  match shared.holders[holder]? with
  | none => shared
  | some cell => { shared with cells := shared.cells.modify cell change }

/-- Replace the value that a holder looks at. -/
def put (shared : Shared α) (holder : Nat) (value : α) : Shared α :=
  shared.modify holder fun _ => value

end Shared

end MarkupLint

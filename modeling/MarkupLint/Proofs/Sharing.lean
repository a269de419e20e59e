import MarkupLint.Sharing
import Mathlib.Data.List.Basic

/-!
# Holders that look at one value

Two holders are together if they look at the same value.  They then read the same, and what is
changed through one of them is changed for both.  A new holder that shares with another one is
together with it, and holders that are together stay so, since values and holders are only ever
added and never moved.
-/

namespace MarkupLint.Shared

variable {α : Type} {shared later final : Shared α} {first second third holder other : Nat}
  {value : α}

/-- Two holders look at the same value. -/
def Together (shared : Shared α) (first second : Nat) : Prop :=
  ∃ cell, shared.holders[first]? = some cell ∧ shared.holders[second]? = some cell

namespace Together

theorem symm (together : shared.Together first second) : shared.Together second first := by
  obtain ⟨cell, firstCell, secondCell⟩ := together
  exact ⟨cell, secondCell, firstCell⟩

theorem trans (together : shared.Together first second) (next : shared.Together second third) :
    shared.Together first third := by
  obtain ⟨cell, firstCell, secondCell⟩ := together
  obtain ⟨same, sameCell, thirdCell⟩ := next
  obtain rfl : cell = same := Option.some.inj (secondCell.symm.trans sameCell)
  exact ⟨cell, firstCell, thirdCell⟩

theorem get?_eq (together : shared.Together first second) :
    shared.get? first = shared.get? second := by
  obtain ⟨cell, firstCell, secondCell⟩ := together
  rw [get?, get?, firstCell, secondCell]

end Together

theorem together_self (holds : (shared.get? holder).isSome) : shared.Together holder holder := by
  obtain ⟨value, found⟩ := Option.isSome_iff_exists.mp holds
  obtain ⟨cell, known, _⟩ := Option.bind_eq_some_iff.mp found
  exact ⟨cell, known, known⟩

section Changes

/-- What is changed through one of two holders that are together, is changed for the other. -/
theorem get?_modify_of_together (together : shared.Together holder other) (change : α → α) :
    (shared.modify holder change).get? other = (shared.get? other).map change := by
  obtain ⟨cell, known, same⟩ := together
  simp [modify, get?, known, same, List.getElem?_modify]

theorem get?_put_of_together (together : shared.Together holder other)
    (holds : (shared.get? other).isSome) (value : α) :
    (shared.put holder value).get? other = some value := by
  obtain ⟨old, found⟩ := Option.isSome_iff_exists.mp holds
  rw [put, get?_modify_of_together together, found, Option.map_some]

theorem holders_modify (shared : Shared α) (holder : Nat) (change : α → α) :
    (shared.modify holder change).holders = shared.holders := by
  unfold modify
  split <;> rfl

theorem together_modify_iff {change : α → α} :
    (shared.modify holder change).Together first second ↔ shared.Together first second := by
  rw [Together, Together, holders_modify]

end Changes

section Growth

/-- Nothing was taken away: earlier holders look where they looked, and there are still values. -/
structure Grows (shared later : Shared α) : Prop where
  holders : shared.holders <+: later.holders
  cells : shared.cells.length ≤ later.cells.length

theorem Grows.refl (shared : Shared α) : shared.Grows shared :=
  ⟨List.prefix_refl _, Nat.le_refl _⟩

theorem Grows.trans (grows : shared.Grows later) (next : later.Grows final) :
    shared.Grows final :=
  ⟨grows.holders.trans next.holders, Nat.le_trans grows.cells next.cells⟩

theorem grows_create (shared : Shared α) (value : α) : shared.Grows (shared.create value) := by
  refine ⟨List.prefix_append .., ?_⟩
  rw [create, List.length_append]
  exact Nat.le_add_right ..

theorem grows_share (shared : Shared α) (holder : Nat) : shared.Grows (shared.share holder) := by
  unfold share
  split
  · exact .refl shared
  · exact ⟨List.prefix_append .., Nat.le_refl _⟩

theorem grows_modify (shared : Shared α) (holder : Nat) (change : α → α) :
    shared.Grows (shared.modify holder change) := by
  unfold modify
  split
  · exact .refl shared
  · exact ⟨List.prefix_refl _, Nat.le_of_eq (List.length_modify ..).symm⟩

theorem Grows.getElem?_holders (grows : shared.Grows later) {cell : Nat}
    (known : shared.holders[holder]? = some cell) : later.holders[holder]? = some cell := by
  obtain ⟨bound, rfl⟩ := List.getElem?_eq_some_iff.mp known
  exact List.prefix_iff_getElem?.mp grows.holders holder bound

theorem Together.mono (together : shared.Together first second) (grows : shared.Grows later) :
    later.Together first second := by
  obtain ⟨cell, firstCell, secondCell⟩ := together
  exact ⟨cell, grows.getElem?_holders firstCell, grows.getElem?_holders secondCell⟩

theorem isSome_get?_mono (holds : (shared.get? holder).isSome) (grows : shared.Grows later) :
    (later.get? holder).isSome := by
  obtain ⟨value, found⟩ := Option.isSome_iff_exists.mp holds
  obtain ⟨cell, known, inside⟩ := Option.bind_eq_some_iff.mp found
  have bound : cell < later.cells.length :=
    Nat.lt_of_lt_of_le (List.getElem?_eq_some_iff.mp inside).1 grows.cells
  simp [get?, grows.getElem?_holders known, bound]

end Growth

section NewHolders

/-- Sharing changes nothing for those who are there. -/
theorem get?_share_of_some (found : shared.get? holder = some value) (other : Nat) :
    (shared.share other).get? holder = some value := by
  obtain ⟨cell, known, inside⟩ := Option.bind_eq_some_iff.mp found
  have sameCells : (shared.share other).cells = shared.cells := by
    unfold share
    split <;> rfl
  rw [get?, (grows_share shared other).getElem?_holders known, Option.bind_some, sameCells, inside]

theorem together_share (holds : (shared.get? holder).isSome) :
    (shared.share holder).Together holder shared.count := by
  obtain ⟨cell, known, _⟩ := together_self holds
  refine ⟨cell, (grows_share shared holder).getElem?_holders known, ?_⟩
  simp [share, known, count]

theorem count_share (holds : (shared.get? holder).isSome) :
    (shared.share holder).count = shared.count + 1 := by
  obtain ⟨cell, known, _⟩ := together_self holds
  simp [share, known, count]

end NewHolders

end MarkupLint.Shared

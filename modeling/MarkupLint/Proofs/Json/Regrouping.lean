import MarkupLint.Proofs.Json.Layers
import Mathlib.Tactic.ByContra

/-!
# Regrouping merges

Merging three layers in one order or the other gives the same value unless the middle layer
interrupts the outer ones: somewhere both of these hold containers of the same kind, and the middle
layer holds a value of another kind.  Merged first with the middle layer, the first one then loses
its container to that value, while the last layer would have been merged into it.

The kind of a merged value is the kind of its overlay, so at each place either all three layers are
containers of one kind, and one step further in decides, or the value is one of the layers as it
stands.
-/

namespace MarkupLint.Json

/-- The middle one of three layers interrupts the others at a path: up to there all three hold
containers of one kind, and there the outer ones do and the middle one holds a value of another
kind. -/
structure Interrupts (first middle last : Json) (path : List Step) : Prop where
  through : ∀ shorter, shorter <+: path → shorter ≠ path →
    Alike (first.at? shorter) (middle.at? shorter) ∧ Alike (middle.at? shorter) (last.at? shorter)
  outer : Alike (first.at? path) (last.at? path)
  present : (middle.at? path).isSome
  apart : ¬ Alike (first.at? path) (middle.at? path)

section Kinds

variable {first second third : Option Json} {value base overlay : Json}

theorem Alike.symm (alike : Alike first second) : Alike second first := by
  cases alike with
  | objects => exact .objects ..
  | arrays => exact .arrays ..

theorem Alike.trans (alike : Alike first second) (next : Alike second third) :
    Alike first third := by
  cases alike with
  | objects => cases next with | objects => exact .objects ..
  | arrays => cases next with | arrays => exact .arrays ..

theorem alike_merge_self (alike : Alike (some base) (some overlay)) :
    Alike (some base) (some (base.merge overlay)) := by
  cases alike with
  | objects =>
      rw [merge]
      exact .objects ..
  | arrays =>
      rw [merge]
      exact .arrays ..

/-- The kind of a merged value is the kind of its overlay. -/
theorem alike_merge_iff :
    Alike (some value) (some (base.merge overlay)) ↔ Alike (some value) (some overlay) := by
  by_cases alike : Alike (some base) (some overlay)
  · have merged : Alike (some overlay) (some (base.merge overlay)) :=
      alike.symm.trans (alike_merge_self alike)
    exact ⟨fun known => known.trans merged.symm, fun known => known.trans merged⟩
  · rw [merge_of_not_alike alike]

end Kinds

section Steps

variable {value inner first second : Json} {step : Step}

theorem IsCanonical.of_step? (canonical : IsCanonical value) (found : value.step? step = some inner) :
    IsCanonical inner := by
  cases canonical with
  | null | bool | number | string => cases step <;> cases found
  | array each =>
      cases step with
      | key => cases found
      | index position => exact each _ (List.mem_of_getElem? found)
  | object _ each =>
      cases step with
      | key name => exact each _ (Members.mem_of_lookup found)
      | index => cases found

/-- What holds of a canonical value as soon as it holds of everything one step further in, holds of
all canonical values. -/
theorem IsCanonical.stepwise {motive : (value : Json) → IsCanonical value → Prop}
    (within : ∀ value (canonical : IsCanonical value),
      (∀ step inner (found : value.step? step = some inner),
        motive inner (canonical.of_step? found)) → motive value canonical)
    {value : Json} (canonical : IsCanonical value) : motive value canonical := by
  induction canonical with
  | null | bool | number | string =>
      exact within _ (by constructor) fun step _ found => by cases step <;> cases found
  | array each ih =>
      refine within _ (.array each) fun step inner found => ?_
      cases step with
      | key => cases found
      | index position => exact ih inner (List.mem_of_getElem? found)
  | object ascending each ih =>
      refine within _ (.object ascending each) fun step inner found => ?_
      cases step with
      | key name => exact ih (name, inner) (Members.mem_of_lookup found)
      | index => cases found

/-- Containers of one kind, with their members in order, are determined by what is one step further
in. -/
theorem Alike.eq_of_step? (alike : Alike (some first) (some second))
    (firstOrdered : first.isObject → IsOrdered first)
    (secondOrdered : second.isObject → IsOrdered second)
    (agree : ∀ step, first.step? step = second.step? step) : first = second := by
  cases alike with
  | objects => exact (firstOrdered rfl).ext (secondOrdered rfl) fun key => agree (.key key)
  | arrays => rw [List.ext_getElem? fun position => agree (.index position)]

/-- A merged container keeps the order of its base, whatever the order of the overlay. -/
theorem Alike.isOrdered_merge (alike : Alike (some first) (some second))
    (ordered : first.isObject → IsOrdered first) (mergedObject : (first.merge second).isObject) :
    IsOrdered (first.merge second) := by
  cases alike with
  | objects => exact (ordered rfl).merge rfl
  | arrays =>
      rw [merge] at mergedObject
      cases mergedObject

theorem IsCanonical.isOrdered (canonical : IsCanonical value) (valueObject : value.isObject) :
    IsOrdered value := by
  cases canonical with
  | object ascending _ => exact ⟨_, rfl, ascending⟩
  | _ => cases valueObject

end Steps

variable {first middle last : Json} {step : Step} {path : List Step}

theorem interrupts_nil_iff :
    Interrupts first middle last [] ↔
      Alike (some first) (some last) ∧ ¬ Alike (some first) (some middle) := by
  constructor
  · intro interrupts
    exact ⟨interrupts.outer, interrupts.apart⟩
  · rintro ⟨outer, apart⟩
    exact ⟨fun _ within different => absurd (List.prefix_nil.mp within) different, outer, rfl,
      apart⟩

/-- Further in, layers are interrupted only if they are containers of one kind and the values one
step in are interrupted. -/
theorem interrupts_cons_iff :
    Interrupts first middle last (step :: path) ↔
      (Alike (some first) (some middle) ∧ Alike (some middle) (some last)) ∧
        ∃ one two three, first.step? step = some one ∧ middle.step? step = some two ∧
          last.step? step = some three ∧ Interrupts one two three path := by
  constructor
  · rintro ⟨through, outer, present, apart⟩
    obtain ⟨one, firstStep, _⟩ :=
      Option.bind_eq_some_iff.mp (Option.eq_some_of_isSome outer.isSome.1)
    obtain ⟨two, middleStep, _⟩ :=
      Option.bind_eq_some_iff.mp (Option.eq_some_of_isSome present)
    obtain ⟨three, lastStep, _⟩ :=
      Option.bind_eq_some_iff.mp (Option.eq_some_of_isSome outer.isSome.2)
    refine ⟨through [] List.nil_prefix (by simp), one, two, three, firstStep, middleStep, lastStep,
      ?_⟩
    simp only [at?_cons, firstStep, middleStep, lastStep, Option.bind_some] at outer present apart
    refine ⟨fun shorter within different => ?_, outer, present, apart⟩
    simpa [firstStep, middleStep, lastStep] using
      through (step :: shorter) (List.cons_prefix_cons.mpr ⟨rfl, within⟩) (by simpa using different)
  · rintro ⟨alike, one, two, three, firstStep, middleStep, lastStep, interrupts⟩
    obtain ⟨through, outer, present, apart⟩ := interrupts
    refine ⟨fun shorter within different => ?_, ?_, ?_, ?_⟩
    · rcases List.prefix_cons_iff.mp within with rfl | ⟨rest, rfl, restWithin⟩
      · exact alike
      · simpa [firstStep, middleStep, lastStep] using
          through rest restWithin (by simpa using different)
    · simpa [firstStep, lastStep] using outer
    · simpa [middleStep] using present
    · simpa [firstStep, middleStep] using apart

theorem mergeOptional_assoc_of_missing {first middle last : Option Json}
    (missing : first = none ∨ middle = none ∨ last = none) :
    mergeOptional (mergeOptional first middle) last =
      mergeOptional first (mergeOptional middle last) := by
  rcases missing with rfl | rfl | rfl
  · cases middle <;> cases last <;> rfl
  · cases first <;> cases last <;> rfl
  · cases first <;> cases middle <;> rfl

/-- Where the layers are not all containers of one kind, the last one replaces everything or is
merged into a single layer. -/
theorem merge_assoc_iff_of_apart
    (apart : ¬ (Alike (some first) (some middle) ∧ Alike (some middle) (some last))) :
    (first.merge middle).merge last = first.merge (middle.merge last) ↔
      (Interrupts first middle last [] → first.merge last = last) := by
  rw [interrupts_nil_iff]
  by_cases front : Alike (some first) (some middle)
  · have back : ¬ Alike (some middle) (some last) := fun back => apart ⟨front, back⟩
    have merged : ¬ Alike (some (first.merge middle)) (some last) := fun known =>
      back ((alike_merge_iff.mp known.symm).symm)
    have outer : ¬ Alike (some first) (some last) := fun known => back (front.symm.trans known)
    simp [merge_of_not_alike, back, merged, outer]
  -- The first layer is lost to the middle one, unless the last one is merged into it again.
  · rw [merge_of_not_alike front]
    by_cases outer : Alike (some first) (some last)
    · have back : ¬ Alike (some middle) (some last) := fun back => front (outer.trans back.symm)
      simp [merge_of_not_alike back, outer, front, eq_comm]
    · have merged : ¬ Alike (some first) (some (middle.merge last)) := fun known =>
        outer (alike_merge_iff.mp known)
      simp [merge_of_not_alike merged, outer]

/-- Where all layers are containers of one kind, the values one step further in decide. -/
theorem merge_assoc_iff_of_alike (ordered : first.isObject → IsOrdered first)
    (front : Alike (some first) (some middle)) (back : Alike (some middle) (some last)) :
    (first.merge middle).merge last = first.merge (middle.merge last) ↔
      ∀ step one two three, first.step? step = some one → middle.step? step = some two →
        last.step? step = some three → (one.merge two).merge three = one.merge (two.merge three) := by
  have frontMerged : Alike (some (first.merge middle)) (some last) :=
    (alike_merge_self front).symm.trans (front.trans back)
  have backMerged : Alike (some first) (some (middle.merge last)) :=
    alike_merge_iff.mpr (front.trans back)
  have leftStep (step : Step) : ((first.merge middle).merge last).step? step =
      mergeOptional (mergeOptional (first.step? step) (middle.step? step)) (last.step? step) := by
    rw [step?_merge frontMerged, step?_merge front]
  have rightStep (step : Step) : (first.merge (middle.merge last)).step? step =
      mergeOptional (first.step? step) (mergeOptional (middle.step? step) (last.step? step)) := by
    rw [step?_merge backMerged, step?_merge back]
  constructor
  · intro same step one two three firstStep middleStep lastStep
    have sameStep := congrArg (fun value => value.step? step) same
    simpa only [leftStep, rightStep, firstStep, middleStep, lastStep, mergeOptional,
      Option.some.injEq] using sameStep
  · intro inner
    have kinds : Alike (some ((first.merge middle).merge last))
        (some (first.merge (middle.merge last))) :=
      ((alike_merge_self front).trans (alike_merge_self frontMerged)).symm.trans
        (alike_merge_self backMerged)
    refine kinds.eq_of_step? (frontMerged.isOrdered_merge (front.isOrdered_merge ordered))
      (backMerged.isOrdered_merge ordered) fun step => ?_
    rw [leftStep, rightStep]
    -- If one of the three has no part there, only two are merged.
    cases firstStep : first.step? step with
    | none => exact mergeOptional_assoc_of_missing (.inl rfl)
    | some one =>
        cases middleStep : middle.step? step with
        | none => exact mergeOptional_assoc_of_missing (.inr (.inl rfl))
        | some two =>
            cases lastStep : last.step? step with
            | none => exact mergeOptional_assoc_of_missing (.inr (.inr rfl))
            | some three =>
                exact congrArg some (inner step one two three firstStep middleStep lastStep)

/-- Three layers may be regrouped exactly if, wherever the middle one interrupts the others, the
last one already holds all that the first one would add to it.  The members of the later layers may
stand in any order: a merged object has the order of its base. -/
theorem merge_assoc_iff (canonical : IsCanonical first) :
    (first.merge middle).merge last = first.merge (middle.merge last) ↔
      ∀ path, Interrupts first middle last path →
        mergeOptional (first.at? path) (last.at? path) = last.at? path := by
  -- A path interrupts at its root, or else after a step that leads to a part of all three.
  induction canonical using IsCanonical.stepwise generalizing middle last with
  | within first canonical ih =>
      by_cases together : Alike (some first) (some middle) ∧ Alike (some middle) (some last)
      · rw [merge_assoc_iff_of_alike canonical.isOrdered together.1 together.2]
        constructor
        · intro inner path interrupts
          cases path with
          | nil => exact absurd together.1 (interrupts_nil_iff.mp interrupts).2
          | cons step path =>
              obtain ⟨_, one, two, three, firstStep, middleStep, lastStep, interrupts⟩ :=
                interrupts_cons_iff.mp interrupts
              have settled := (ih step one firstStep).mp
                (inner step one two three firstStep middleStep lastStep) path interrupts
              simpa [firstStep, lastStep] using settled
        · intro settled step one two three firstStep middleStep lastStep
          refine (ih step one firstStep).mpr fun path interrupts => ?_
          simpa [firstStep, lastStep] using settled (step :: path)
            (interrupts_cons_iff.mpr
              ⟨together, one, two, three, firstStep, middleStep, lastStep, interrupts⟩)
      · rw [merge_assoc_iff_of_apart together]
        constructor
        · intro root path interrupts
          cases path with
          | nil => exact congrArg some (root interrupts)
          | cons step path => exact absurd (interrupts_cons_iff.mp interrupts).1 together
        · intro settled interrupts
          exact Option.some.inj (settled [] interrupts)

/-- Three layers may be regrouped if the middle one nowhere interrupts the others. -/
theorem merge_assoc_of_uninterrupted (canonical : IsCanonical first)
    (uninterrupted : ∀ path, ¬ Interrupts first middle last path) :
    (first.merge middle).merge last = first.merge (middle.merge last) :=
  (merge_assoc_iff canonical).mpr fun path interrupts => absurd interrupts (uninterrupted path)

/-- A null that takes the place of an object may be regrouped with a text that replaces it again. -/
theorem merge_assoc_null_between :
    let first : Json := .array [.object [("id", .bool true)], .ofNat 1]
    let middle : Json := .array [.null]
    let last : Json := .array [.string "off"]
    IsCanonical first ∧ (∀ path, ¬ Interrupts first middle last path) ∧
      (first.merge middle).merge last = first.merge (middle.merge last) := by
  intro first middle last
  have canonical : IsCanonical first := isCanonical_canonical first
  have uninterrupted : ∀ path, ¬ Interrupts first middle last path := by
    intro path interrupts
    rcases path with _ | ⟨_ | _ | position, path⟩
    · exact (interrupts_nil_iff.mp interrupts).2 (.arrays ..)
    · obtain ⟨_, _, _, _, firstStep, _⟩ := interrupts_cons_iff.mp interrupts
      cases firstStep
    · obtain ⟨_, one, two, three, firstStep, middleStep, lastStep, within⟩ :=
        interrupts_cons_iff.mp interrupts
      cases lastStep
      cases path with
      | nil =>
          cases firstStep
          cases (interrupts_nil_iff.mp within).1
      | cons => cases (interrupts_cons_iff.mp within).1.2
    · obtain ⟨_, _, _, _, _, middleStep, _⟩ := interrupts_cons_iff.mp interrupts
      cases middleStep
  exact ⟨canonical, uninterrupted,
    merge_assoc_of_uninterrupted canonical uninterrupted⟩

/-- A null between two objects is different: merged first, it erases the members of the first. -/
example : ((Json.object [("id", .bool true)]).merge .null).merge (.object []) ≠
    (Json.object [("id", .bool true)]).merge (Json.null.merge (.object [])) := by
  decide

end MarkupLint.Json

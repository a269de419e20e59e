import MarkupLint.Json.Merge
import MarkupLint.Proofs.Json.Members
import Mathlib.Data.List.Basic

/-!
# Merging, path by path

A merged value is determined by what its base and its overlay hold at every path.  As long as both
hold a container of the same kind, the merged value holds one with the keys of both, or as long as
the longer of the two.  At the first place where they part, the overlay's value is taken over with
everything below it, and the base's value only where the overlay has none.

The proof needs one fact about a single step into the merged value; paths follow by induction.
-/

namespace MarkupLint.Json

/-- Two places hold containers of the same kind: two objects or two arrays. -/
inductive Alike : (first second : Option Json) → Prop
  | objects (first second : Members) : Alike (some (.object first)) (some (.object second))
  | arrays (first second : List Json) : Alike (some (.array first)) (some (.array second))

theorem Alike.isSome {first second : Option Json} (alike : Alike first second) :
    first.isSome ∧ second.isSome := by
  cases alike <;> simp

/-- The shortest beginning of a path at which two values no longer hold containers of the same
kind. -/
structure PartsAt (base overlay : Json) (path part : List Step) : Prop where
  along : part <+: path
  apart : ¬ Alike (base.at? part) (overlay.at? part)
  shortest : ∀ shorter, shorter <+: part → shorter ≠ part →
    Alike (base.at? shorter) (overlay.at? shorter)

/-- A container with exactly the keys of two objects, or as long as the longer of two arrays. -/
inductive Spans : (first second merged : Option Json) → Prop
  | object {first second merged : Members}
      (keys : ∀ key, key ∈ merged.map Prod.fst ↔
        key ∈ first.map Prod.fst ∨ key ∈ second.map Prod.fst) :
      Spans (some (.object first)) (some (.object second)) (some (.object merged))
  | array {first second merged : List Json}
      (length : merged.length = max first.length second.length) :
      Spans (some (.array first)) (some (.array second)) (some (.array merged))

/-- What a base and an overlay determine at every path. -/
structure IsMergeOf (base overlay merged : Json) : Prop where
  inherits : ∀ path part, PartsAt base overlay path part →
    merged.at? path = if (overlay.at? part).isSome then overlay.at? path else base.at? path
  spans : ∀ path, (¬ ∃ part, PartsAt base overlay path part) →
    Spans (base.at? path) (overlay.at? path) (merged.at? path)

/-- Values that may be missing, merged if both are there. -/
def mergeOptional : (base overlay : Option Json) → Option Json
  | some base, some overlay => some (base.merge overlay)
  | base, none => base
  | none, overlay => overlay

section Step

variable {base overlay : Json}

theorem lookup_mergeMembers (members overlay : Members) (key : String) :
    (mergeMembers members overlay).lookup key =
      (members.lookup key).bind fun value => mergeOptional (some value) (overlay.lookup key) := by
  induction members with
  | nil => simp [mergeMembers]
  | cons member rest ih =>
      obtain ⟨firstKey, first⟩ := member
      by_cases same : key = firstKey
      · subst same
        cases found : overlay.lookup key <;> simp [mergeMembers, mergeOptional, found]
      · simp only [mergeMembers, List.lookup_cons, beq_false_of_ne same]
        exact ih

theorem lookup_addMissing (members overlay : Members) (key : String) :
    (addMissing members overlay).lookup key = (members.lookup key).or (overlay.lookup key) := by
  induction overlay generalizing members with
  | nil => simp [addMissing]
  | cons member rest ih =>
      obtain ⟨firstKey, first⟩ := member
      have unfolded : addMissing members ((firstKey, first) :: rest) =
          addMissing (if (members.lookup firstKey).isSome then members
            else Members.insert firstKey first members) rest := rfl
      rw [unfolded, ih]
      by_cases same : key = firstKey
      · subst same
        cases found : members.lookup key <;> simp [found]
      · simp only [List.lookup_cons, beq_false_of_ne same]
        split
        · rfl
        · rw [Members.lookup_insert_of_ne same]

/-- A merged object holds under each key what its base and its overlay hold there, merged. -/
theorem lookup_merge (members overlay : Members) (key : String) :
    (addMissing (mergeMembers members overlay) overlay).lookup key =
      mergeOptional (members.lookup key) (overlay.lookup key) := by
  rw [lookup_addMissing, lookup_mergeMembers]
  cases members.lookup key <;> cases overlay.lookup key <;> simp [mergeOptional]

theorem getElem?_mergeItems (items overlay : List Json) (index : Nat) :
    (mergeItems items overlay)[index]? = mergeOptional items[index]? overlay[index]? := by
  induction items generalizing overlay index with
  | nil => cases found : overlay[index]? <;> simp [mergeItems, mergeOptional, found]
  | cons item rest ih =>
      cases overlay with
      | nil => cases found : (item :: rest)[index]? <;> simp [mergeItems, mergeOptional, found]
      | cons other others =>
          cases index with
          | zero => simp [mergeItems, mergeOptional]
          | succ index => simpa [mergeItems] using ih others index

theorem length_mergeItems (items overlay : List Json) :
    (mergeItems items overlay).length = max items.length overlay.length := by
  induction items generalizing overlay with
  | nil => simp [mergeItems]
  | cons item rest ih =>
      cases overlay with
      | nil => simp [mergeItems]
      | cons other others =>
          simp only [mergeItems, List.length_cons, ih]
          omega

/-- Where a base and an overlay are containers of the same kind, one step leads to what is there in
both, merged. -/
theorem step?_merge (alike : Alike (some base) (some overlay)) (step : Step) :
    (base.merge overlay).step? step = mergeOptional (base.step? step) (overlay.step? step) := by
  cases alike with
  | objects members overlay =>
      cases step with
      | key name => simpa [merge, step?] using lookup_merge members overlay name
      | index position => simp [merge, step?, mergeOptional]
  | arrays items overlay =>
      cases step with
      | key name => simp [merge, step?, mergeOptional]
      | index position => simpa [merge, step?] using getElem?_mergeItems items overlay position

theorem merge_of_not_alike (apart : ¬ Alike (some base) (some overlay)) :
    base.merge overlay = overlay := by
  cases base with
  | object members =>
      cases overlay with
      | object other => exact absurd (.objects members other) apart
      | _ => rfl
  | array items =>
      cases overlay with
      | array other => exact absurd (.arrays items other) apart
      | _ => rfl
  | _ => rfl

theorem spans_merge (alike : Alike (some base) (some overlay)) :
    Spans (some base) (some overlay) (some (base.merge overlay)) := by
  cases alike with
  | objects members overlay =>
      rw [merge]
      refine .object fun key => ?_
      simp only [← Members.lookup_isSome_iff, lookup_merge]
      cases members.lookup key <;> cases overlay.lookup key <;> simp [mergeOptional]
  | arrays items overlay =>
      rw [merge]
      exact .array (length_mergeItems items overlay)

end Step

section Paths

variable {base overlay inner other : Json} {step : Step} {path part tail : List Step}

@[simp]
theorem at?_nil (value : Json) : value.at? [] = some value := rfl

@[simp]
theorem at?_cons (value : Json) (step : Step) (path : List Step) :
    value.at? (step :: path) = (value.step? step).bind fun inner => inner.at? path := rfl

theorem partsAt_nil (apart : ¬ Alike (some base) (some overlay)) (path : List Step) :
    PartsAt base overlay path [] where
  along := List.nil_prefix
  apart := apart
  shortest := fun _ within different => absurd (List.prefix_nil.mp within) different

theorem PartsAt.eq_nil (parts : PartsAt base overlay path part)
    (apart : ¬ Alike (some base) (some overlay)) : part = [] := by
  by_contra nonempty
  exact apart (parts.shortest [] List.nil_prefix (Ne.symm nonempty))

theorem PartsAt.exists_cons (parts : PartsAt base overlay (step :: path) part)
    (alike : Alike (some base) (some overlay)) : ∃ tail, part = step :: tail := by
  rcases List.prefix_cons_iff.mp parts.along with rfl | ⟨tail, rfl, _⟩
  · exact absurd alike parts.apart
  · exact ⟨tail, rfl⟩

/-- Values that are alike part where the values one step further in do. -/
theorem partsAt_cons (alike : Alike (some base) (some overlay))
    (baseStep : base.step? step = some inner) (overlayStep : overlay.step? step = some other) :
    PartsAt base overlay (step :: path) (step :: tail) ↔ PartsAt inner other path tail := by
  constructor
  · intro parts
    refine ⟨(List.cons_prefix_cons.mp parts.along).2, ?_, ?_⟩
    · simpa [baseStep, overlayStep] using parts.apart
    · intro shorter within different
      simpa [baseStep, overlayStep] using
        parts.shortest (step :: shorter) (List.cons_prefix_cons.mpr ⟨rfl, within⟩) (by simpa)
  · intro parts
    refine ⟨List.cons_prefix_cons.mpr ⟨rfl, parts.along⟩, ?_, ?_⟩
    · simpa [baseStep, overlayStep] using parts.apart
    · intro shorter within different
      rcases List.prefix_cons_iff.mp within with rfl | ⟨rest, rfl, restWithin⟩
      · exact alike
      · simpa [baseStep, overlayStep] using
          parts.shortest rest restWithin (by simpa using different)

/-- Values that are alike part at the first step that is missing in one of them. -/
theorem partsAt_of_missing (alike : Alike (some base) (some overlay))
    (missing : base.step? step = none ∨ overlay.step? step = none) :
    PartsAt base overlay (step :: path) part ↔ part = [step] := by
  have apart : ¬ Alike (base.at? [step]) (overlay.at? [step]) := by
    intro stillAlike
    rcases missing with missing | missing
    · simpa [missing] using stillAlike.isSome.1
    · simpa [missing] using stillAlike.isSome.2
  constructor
  · intro parts
    obtain ⟨tail, rfl⟩ := parts.exists_cons alike
    by_contra longer
    exact apart (parts.shortest [step] (List.cons_prefix_cons.mpr ⟨rfl, List.nil_prefix⟩)
      (Ne.symm longer))
  · rintro rfl
    refine ⟨List.cons_prefix_cons.mpr ⟨rfl, List.nil_prefix⟩, apart, ?_⟩
    intro shorter within different
    rcases List.prefix_cons_iff.mp within with rfl | ⟨rest, rfl, restWithin⟩
    · exact alike
    · exact absurd (by rw [List.prefix_nil.mp restWithin]) different

theorem at?_merge_of_partsAt (parts : PartsAt base overlay path part) :
    (base.merge overlay).at? path =
      if (overlay.at? part).isSome then overlay.at? path else base.at? path := by
  induction path generalizing base overlay part with
  | nil =>
      have atRoot : part = [] := List.prefix_nil.mp parts.along
      subst atRoot
      simp [merge_of_not_alike parts.apart]
  | cons step path ih =>
      by_cases alike : Alike (some base) (some overlay)
      · cases baseStep : base.step? step with
        | none =>
            obtain rfl := (partsAt_of_missing alike (Or.inl baseStep)).mp parts
            cases overlayStep : overlay.step? step <;>
              simp [step?_merge alike, mergeOptional, baseStep, overlayStep]
        | some inner =>
            cases overlayStep : overlay.step? step with
            | none =>
                obtain rfl := (partsAt_of_missing alike (Or.inr overlayStep)).mp parts
                simp [step?_merge alike, mergeOptional, baseStep, overlayStep]
            | some other =>
                obtain ⟨tail, rfl⟩ := parts.exists_cons alike
                have innerParts := (partsAt_cons alike baseStep overlayStep).mp parts
                simpa [step?_merge alike, mergeOptional, baseStep, overlayStep] using ih innerParts
      · obtain rfl := parts.eq_nil alike
        simp [merge_of_not_alike alike]

theorem spans_merge_at? (together : ¬ ∃ part, PartsAt base overlay path part) :
    Spans (base.at? path) (overlay.at? path) ((base.merge overlay).at? path) := by
  have alike : Alike (some base) (some overlay) := by
    by_contra apart
    exact together ⟨[], partsAt_nil apart path⟩
  induction path generalizing base overlay with
  | nil => exact spans_merge alike
  | cons step path ih =>
      cases baseStep : base.step? step with
      | none => exact absurd ⟨_, (partsAt_of_missing alike (Or.inl baseStep)).mpr rfl⟩ together
      | some inner =>
          cases overlayStep : overlay.step? step with
          | none =>
              exact absurd ⟨_, (partsAt_of_missing alike (Or.inr overlayStep)).mpr rfl⟩ together
          | some other =>
              have innerTogether : ¬ ∃ tail, PartsAt inner other path tail := by
                rintro ⟨tail, parts⟩
                exact together ⟨_, (partsAt_cons alike baseStep overlayStep).mpr parts⟩
              have innerAlike : Alike (some inner) (some other) := by
                by_contra apart
                exact innerTogether ⟨[], partsAt_nil apart path⟩
              simpa [step?_merge alike, mergeOptional, baseStep, overlayStep] using
                ih innerTogether innerAlike

theorem isMergeOf_merge (base overlay : Json) : IsMergeOf base overlay (base.merge overlay) where
  inherits _ _ := at?_merge_of_partsAt
  spans _ := spans_merge_at?

end Paths

section Order

variable {base overlay : Json} {members other : Members} {member : String × Json}

theorem keys_mergeMembers (members overlay : Members) :
    (mergeMembers members overlay).map Prod.fst = members.map Prod.fst := by
  induction members with
  | nil => rfl
  | cons member rest ih => simp only [mergeMembers, List.map_cons, ih]

theorem ascending_mergeMembers (ascending : Members.Ascending members) (overlay : Members) :
    Members.Ascending (mergeMembers members overlay) := by
  have keysAscending : (members.map Prod.fst).Pairwise (· < ·) := List.pairwise_map.mpr ascending
  rw [← keys_mergeMembers members overlay] at keysAscending
  exact List.pairwise_map.mp keysAscending

/-- A member of a merged base holds the base's value, merged if the overlay has its key. -/
theorem mem_mergeMembers (inside : member ∈ mergeMembers members other) :
    ∃ value, (member.1, value) ∈ members ∧
      some member.2 = mergeOptional (some value) (other.lookup member.1) := by
  induction members with
  | nil => exact absurd inside List.not_mem_nil
  | cons first rest ih =>
      obtain ⟨firstKey, first⟩ := first
      rcases List.mem_cons.mp inside with rfl | later
      · refine ⟨first, List.mem_cons_self, ?_⟩
        cases other.lookup firstKey <;> simp [mergeOptional]
      · obtain ⟨value, valueInside, merged⟩ := ih later
        exact ⟨value, List.mem_cons_of_mem _ valueInside, merged⟩

theorem ascending_addMissing (ascending : Members.Ascending members) (overlay : Members) :
    Members.Ascending (addMissing members overlay) := by
  induction overlay generalizing members with
  | nil => exact ascending
  | cons first rest ih =>
      refine ih ?_
      dsimp only
      split
      · exact ascending
      · exact ascending.insert first.1 first.2

theorem mem_addMissing (inside : member ∈ addMissing members other) :
    member ∈ members ∨ member ∈ other := by
  induction other generalizing members with
  | nil => exact Or.inl inside
  | cons first rest ih =>
      rcases ih inside with early | late
      · dsimp only at early
        split at early
        · exact Or.inl early
        · rcases Members.mem_insert early with rfl | early
          · exact Or.inr List.mem_cons_self
          · exact Or.inl early
      · exact Or.inr (List.mem_cons_of_mem _ late)

theorem mem_mergeItems {items others : List Json} {item : Json}
    (inside : item ∈ mergeItems items others) :
    item ∈ items ∨ item ∈ others ∨
      ∃ first ∈ items, ∃ second ∈ others, item = merge first second := by
  induction items generalizing others with
  | nil => exact Or.inr (Or.inl (by simpa [mergeItems] using inside))
  | cons first rest ih =>
      cases others with
      | nil => exact Or.inl (by simpa [mergeItems] using inside)
      | cons second others =>
          simp only [mergeItems, List.mem_cons] at inside
          rcases inside with rfl | later
          · exact Or.inr (Or.inr ⟨first, List.mem_cons_self, second, List.mem_cons_self, rfl⟩)
          · rcases ih later with early | late | ⟨left, leftInside, right, rightInside, rfl⟩
            · exact Or.inl (List.mem_cons_of_mem _ early)
            · exact Or.inr (Or.inl (List.mem_cons_of_mem _ late))
            · exact Or.inr (Or.inr ⟨left, List.mem_cons_of_mem _ leftInside, right,
                List.mem_cons_of_mem _ rightInside, rfl⟩)

theorem IsCanonical.merge (baseCanonical : IsCanonical base)
    (overlayCanonical : IsCanonical overlay) : IsCanonical (base.merge overlay) := by
  induction baseCanonical generalizing overlay with
  | null | bool | number | string => exact overlayCanonical
  | @array items each ih =>
      by_cases alike : Alike (some (.array items)) (some overlay)
      · cases alike with
        | arrays _ others =>
            have otherEach : ∀ item ∈ others, IsCanonical item := by
              cases overlayCanonical with
              | array otherEach => exact otherEach
            rw [Json.merge]
            refine .array fun item inside => ?_
            rcases mem_mergeItems inside with early | late | ⟨first, inFirst, second, inSecond, rfl⟩
            · exact each item early
            · exact otherEach item late
            · exact ih first inFirst (otherEach second inSecond)
      · rw [merge_of_not_alike alike]
        exact overlayCanonical
  | @object members ascending each ih =>
      by_cases alike : Alike (some (.object members)) (some overlay)
      · cases alike with
        | objects _ others =>
            have otherEach : ∀ member ∈ others, IsCanonical member.2 := by
              cases overlayCanonical with
              | object _ otherEach => exact otherEach
            rw [Json.merge]
            refine .object (ascending_addMissing (ascending_mergeMembers ascending _) _) ?_
            intro member inside
            rcases mem_addMissing inside with early | late
            · obtain ⟨value, valueInside, merged⟩ := mem_mergeMembers early
              cases found : others.lookup member.1 with
              | none =>
                  simp only [found, mergeOptional, Option.some.injEq] at merged
                  exact merged ▸ each _ valueInside
              | some other =>
                  simp only [found, mergeOptional, Option.some.injEq] at merged
                  exact merged ▸ ih _ valueInside (otherEach _ (Members.mem_of_lookup found))
            · exact otherEach member late
      · rw [merge_of_not_alike alike]
        exact overlayCanonical

end Order

section Uniqueness

variable {base overlay merged inner other : Json} {step : Step}

theorem Spans.alike {first second merged : Option Json} (spans : Spans first second merged) :
    Alike first merged := by
  cases spans with
  | object => exact .objects ..
  | array => exact .arrays ..

theorem IsMergeOf.alike (isMerge : IsMergeOf base overlay merged)
    (alike : Alike (some base) (some overlay)) : Alike (some base) (some merged) := by
  refine (isMerge.spans [] ?_).alike
  rintro ⟨part, parts⟩
  exact parts.apart (List.prefix_nil.mp parts.along ▸ alike)

theorem IsMergeOf.eq_overlay (isMerge : IsMergeOf base overlay merged)
    (apart : ¬ Alike (some base) (some overlay)) : merged = overlay := by
  simpa using isMerge.inherits [] [] (partsAt_nil apart [])

/-- Where base and overlay are alike and one of them lacks a step, the step leads to what the other
one has. -/
theorem IsMergeOf.step?_of_missing (isMerge : IsMergeOf base overlay merged)
    (alike : Alike (some base) (some overlay))
    (missing : base.step? step = none ∨ overlay.step? step = none) :
    merged.step? step = mergeOptional (base.step? step) (overlay.step? step) := by
  have inherited := isMerge.inherits [step] _ ((partsAt_of_missing alike missing).mpr rfl)
  simp only [at?_cons, at?_nil, Option.bind_fun_some] at inherited
  cases baseStep : base.step? step <;> cases overlayStep : overlay.step? step <;>
    simp_all [mergeOptional]

/-- Where base and overlay are alike and both have a step, the step leads to a merge of the values
there. -/
theorem IsMergeOf.exists_step (isMerge : IsMergeOf base overlay merged)
    (alike : Alike (some base) (some overlay)) (baseStep : base.step? step = some inner)
    (overlayStep : overlay.step? step = some other) :
    ∃ value, merged.step? step = some value ∧ IsMergeOf inner other value := by
  have reached : (merged.at? [step]).isSome := by
    by_cases parts : ∃ part, PartsAt base overlay [step] part
    · obtain ⟨part, parts⟩ := parts
      obtain ⟨tail, rfl⟩ := parts.exists_cons alike
      have atStep : tail = [] := List.prefix_nil.mp (List.cons_prefix_cons.mp parts.along).2
      rw [isMerge.inherits _ _ parts, atStep]
      simp [overlayStep]
    · exact (isMerge.spans _ parts).alike.isSome.2
  obtain ⟨value, found⟩ : ∃ value, merged.step? step = some value := by
    simpa [Option.isSome_iff_exists] using reached
  refine ⟨value, found, ?_, ?_⟩
  · intro path part parts
    have outer := isMerge.inherits _ _ ((partsAt_cons alike baseStep overlayStep).mpr parts)
    simpa [found, baseStep, overlayStep] using outer
  · intro path together
    have outerTogether : ¬ ∃ part, PartsAt base overlay (step :: path) part := by
      rintro ⟨part, parts⟩
      obtain ⟨tail, rfl⟩ := parts.exists_cons alike
      exact together ⟨tail, (partsAt_cons alike baseStep overlayStep).mp parts⟩
    simpa [found, baseStep, overlayStep] using isMerge.spans _ outerTogether

private theorem IsMergeOf.step?_eq {first second : Json}
    (firstMerge : IsMergeOf base overlay first) (secondMerge : IsMergeOf base overlay second)
    (alike : Alike (some base) (some overlay)) (step : Step)
    (same : ∀ value, first.step? step = some value → ∀ {inner other third : Json},
      IsCanonical third → IsMergeOf inner other value → IsMergeOf inner other third →
        value = third)
    (canonicalStep : ∀ third, second.step? step = some third → IsCanonical third) :
    first.step? step = second.step? step := by
  cases baseStep : base.step? step with
  | none =>
      rw [firstMerge.step?_of_missing alike (Or.inl baseStep),
        secondMerge.step?_of_missing alike (Or.inl baseStep)]
  | some inner =>
      cases overlayStep : overlay.step? step with
      | none =>
          rw [firstMerge.step?_of_missing alike (Or.inr overlayStep),
            secondMerge.step?_of_missing alike (Or.inr overlayStep)]
      | some other =>
          obtain ⟨value, found, valueMerge⟩ := firstMerge.exists_step alike baseStep overlayStep
          obtain ⟨third, thirdFound, thirdMerge⟩ :=
            secondMerge.exists_step alike baseStep overlayStep
          rw [found, thirdFound, same value found (canonicalStep third thirdFound) valueMerge
            thirdMerge]

/-- A base and an overlay have only one canonical merge. -/
theorem IsMergeOf.unique {first second : Json} (firstMerge : IsMergeOf base overlay first)
    (secondMerge : IsMergeOf base overlay second) (firstCanonical : IsCanonical first)
    (secondCanonical : IsCanonical second) : first = second := by
  -- On the first merge, step by step; canonical values are equal if all their parts are.
  induction firstCanonical generalizing base overlay second with
  | null | bool | number | string =>
      have apart : ¬ Alike (some base) (some overlay) := by
        intro alike
        cases firstMerge.alike alike
      rw [firstMerge.eq_overlay apart, secondMerge.eq_overlay apart]
  | @array items each ih =>
      by_cases alike : Alike (some base) (some overlay)
      · cases firstMerge.alike alike with
        | arrays baseItems _ =>
            cases secondMerge.alike alike with
            | arrays _ others =>
                cases secondCanonical with
                | array otherEach =>
                    congr 1
                    apply List.ext_getElem?
                    intro index
                    refine firstMerge.step?_eq secondMerge alike (.index index) ?_ ?_
                    · intro value found inner other third canonical valueMerge thirdMerge
                      exact ih value (List.mem_of_getElem? found) valueMerge thirdMerge canonical
                    · intro third found
                      exact otherEach third (List.mem_of_getElem? found)
      · rw [firstMerge.eq_overlay alike, secondMerge.eq_overlay alike]
  | @object members ascending each ih =>
      by_cases alike : Alike (some base) (some overlay)
      · cases firstMerge.alike alike with
        | objects baseMembers _ =>
            cases secondMerge.alike alike with
            | objects _ others =>
                cases secondCanonical with
                | object otherAscending otherEach =>
                    congr 1
                    apply ascending.ext otherAscending
                    intro key
                    refine firstMerge.step?_eq secondMerge alike (.key key) ?_ ?_
                    · intro value found inner other third canonical valueMerge thirdMerge
                      exact ih (key, value) (Members.mem_of_lookup found) valueMerge thirdMerge
                        canonical
                    · intro third found
                      exact otherEach (key, third) (Members.mem_of_lookup found)
      · rw [firstMerge.eq_overlay alike, secondMerge.eq_overlay alike]

end Uniqueness

/-- The merged value is determined path by path.  Where base and overlay part, the overlay's value
is taken over with everything below it, or the base's value if the overlay has none; where they
hold containers of the same kind, the merged value holds one with the keys of both or as long as
the longer one.  Of canonical values this makes a canonical one, and no other canonical value
agrees with base and overlay in this way. -/
theorem merge_determined (base overlay : Json) :
    (∀ path part, PartsAt base overlay path part → (base.merge overlay).at? path =
      if (overlay.at? part).isSome then overlay.at? path else base.at? path) ∧
    (∀ path, (¬ ∃ part, PartsAt base overlay path part) →
      Spans (base.at? path) (overlay.at? path) ((base.merge overlay).at? path)) ∧
    (IsCanonical base → IsCanonical overlay → IsCanonical (base.merge overlay) ∧
      ∀ merged, IsCanonical merged → IsMergeOf base overlay merged →
        merged = base.merge overlay) := by
  refine ⟨fun _ _ => at?_merge_of_partsAt, fun _ => spans_merge_at?, ?_⟩
  intro baseCanonical overlayCanonical
  have canonical := baseCanonical.merge overlayCanonical
  refine ⟨canonical, fun merged mergedCanonical isMerge => ?_⟩
  exact isMerge.unique (isMergeOf_merge base overlay) mergedCanonical canonical

/-- A null inside an array inside an object replaces the item at its index and no other one. -/
theorem merge_determined_null_item :
    PartsAt (.object [("globals", .array [.ofNat 1, .ofNat 2])])
      (.object [("globals", .array [.null])])
      [.key "globals", .index 0] [.key "globals", .index 0] ∧
    ((Json.object [("globals", .array [.ofNat 1, .ofNat 2])]).merge
      (.object [("globals", .array [.null])])).at? [.key "globals", .index 0] = some .null := by
  have apart : ¬ Alike (some (.ofNat 1)) (some .null) := by rintro ⟨⟩
  have itemParts : PartsAt (.array [.ofNat 1, .ofNat 2]) (.array [.null]) [.index 0] [.index 0] :=
    (partsAt_cons (.arrays ..) (by rfl) (by rfl)).mpr (partsAt_nil apart [])
  have parts : PartsAt (.object [("globals", .array [.ofNat 1, .ofNat 2])])
      (.object [("globals", .array [.null])])
      [.key "globals", .index 0] [.key "globals", .index 0] :=
    (partsAt_cons (.objects ..) (by rfl) (by rfl)).mpr itemParts
  exact ⟨parts, (merge_determined _ _).1 _ _ parts⟩

end MarkupLint.Json

import MarkupLint.Proofs.Json.Regrouping

/-!
# Merging again

A layer that has been merged is contained in the result, so merging it once more changes nothing:
each of its values meets either itself or a value into which it has been merged.  The same holds for
merging the result into its base again, which is the merge of the base with itself regrouped.

Equal containers are compared member by member and item by item, not only by their lookups, so the
base of a repeated overlay may have its members in any order.
-/

namespace MarkupLint.Json

section Kept

variable {members others : Members} {items : List Json}

theorem mergeItems_eq_self {others : List Json} (short : others.length ≤ items.length)
    (kept : ∀ (index : Nat) (item other : Json), items[index]? = some item →
      others[index]? = some other → item.merge other = item) :
    mergeItems items others = items := by
  apply List.ext_getElem?
  intro index
  rw [getElem?_mergeItems]
  cases found : items[index]? with
  | none =>
      have ended : items.length ≤ index := List.getElem?_eq_none_iff.mp found
      have otherEnded : others[index]? = none :=
        List.getElem?_eq_none_iff.mpr (Nat.le_trans short ended)
      rw [otherEnded, mergeOptional_none_right]
  | some item =>
      cases again : others[index]? with
      | none => rfl
      | some other => exact congrArg some (kept index item other found again)

theorem mergeMembers_eq_self
    (kept : ∀ (key : String) (value other : Json), (key, value) ∈ members →
      others.lookup key = some other → value.merge other = value) :
    mergeMembers members others = members := by
  induction members with
  | nil => rfl
  | cons member rest ih =>
      obtain ⟨key, value⟩ := member
      have restKept : mergeMembers rest others = rest :=
        ih fun name inner other inside =>
          kept name inner other (List.mem_cons_of_mem _ inside)
      rw [mergeMembers, restKept]
      cases found : others.lookup key with
      | none => rfl
      | some other =>
          have valueKept : value.merge other = value :=
            kept key value other List.mem_cons_self found
          simp only [valueKept]

theorem addMissing_eq_self (present : ∀ member ∈ others, (members.lookup member.1).isSome) :
    addMissing members others = members := by
  induction others with
  | nil => rfl
  | cons member rest ih =>
      rw [List.forall_mem_cons] at present
      have skipped : addMissing members (member :: rest) = addMissing members rest := by
        simp only [addMissing, List.foldl_cons, present.1, if_true]
      rw [skipped, ih present.2]

/-- An object stays as it is if it has all keys of the overlay and keeps the values under them. -/
theorem merge_object_eq_self
    (present : ∀ member ∈ others, (members.lookup member.1).isSome)
    (kept : ∀ (key : String) (value other : Json), (key, value) ∈ members →
      others.lookup key = some other → value.merge other = value) :
    (Json.object members).merge (.object others) = .object members := by
  rw [merge, mergeMembers_eq_self kept, addMissing_eq_self present]

end Kept

variable {value base overlay first last : Json} {path : List Step}

theorem merge_self (canonical : IsCanonical value) : value.merge value = value := by
  induction canonical with
  | null | bool | number | string => rfl
  | @array items each ih =>
      rw [merge]
      refine congrArg array (mergeItems_eq_self (Nat.le_refl _) ?_)
      intro index item other found again
      obtain rfl : item = other := Option.some.inj (found.symm.trans again)
      exact ih item (List.mem_of_getElem? found)
  | @object members ascending each ih =>
      apply merge_object_eq_self
      · intro member inside
        exact Members.lookup_isSome_iff.mpr (List.mem_map_of_mem inside)
      · intro key value other inside found
        obtain rfl : value = other :=
          Option.some.inj ((ascending.mem_iff_lookup.mp inside).symm.trans found)
        exact ih (key, value) inside

/-- Where the overlay has an item, this has been merged into whatever stood there, if only into
nothing. -/
theorem exists_eq_merge_of_getElem? {items others : List Json} {index : Nat} {item other : Json}
    (found : (mergeItems items others)[index]? = some item) (again : others[index]? = some other) :
    ∃ before : Json, item = before.merge other := by
  rw [getElem?_mergeItems, again] at found
  cases present : items[index]? with
  | none =>
      have same : other = item := by simpa [present, mergeOptional] using found
      exact ⟨.null, same.symm⟩
  | some before =>
      have same : before.merge other = item := by simpa [present, mergeOptional] using found
      exact ⟨before, same.symm⟩

theorem exists_eq_merge_of_mem {members others : Members} {key : String} {other : Json}
    (ascending : Members.Ascending others)
    (inside : (key, value) ∈ addMissing (mergeMembers members others) others)
    (found : others.lookup key = some other) : ∃ before : Json, value = before.merge other := by
  rcases mem_addMissing inside with merged | added
  · obtain ⟨before, _, same⟩ := mem_mergeMembers merged
    exact ⟨before, by simpa [found, mergeOptional] using same⟩
  · have same : value = other :=
      Option.some.inj ((ascending.mem_iff_lookup.mp added).symm.trans found)
    exact ⟨.null, same⟩

/-- An overlay that has been merged into whatever base may be merged again. -/
theorem merge_merge_self (canonical : IsCanonical overlay) (base : Json) :
    (base.merge overlay).merge overlay = base.merge overlay := by
  induction canonical generalizing base with
  | null | bool | number | string => cases base <;> rfl
  | @array others each ih =>
      by_cases alike : Alike (some base) (some (.array others))
      -- Each item of the overlay meets a value into which it has been merged before.
      · cases alike with
        | arrays items _ =>
            have longer : others.length ≤ (mergeItems items others).length := by
              rw [length_mergeItems]
              exact Nat.le_max_right ..
            rw [merge, merge]
            refine congrArg array (mergeItems_eq_self longer ?_)
            intro index item other found again
            obtain ⟨before, rfl⟩ := exists_eq_merge_of_getElem? found again
            exact ih other (List.mem_of_getElem? again) before
      · rw [merge_of_not_alike alike, merge_self (.array each)]
  | @object others ascending each ih =>
      by_cases alike : Alike (some base) (some (.object others))
      · cases alike with
        | objects members _ =>
            rw [merge]
            apply merge_object_eq_self
            · intro member inside
              have stated : member.1 ∈ others.map Prod.fst := List.mem_map_of_mem inside
              rw [lookup_addMissing, Option.isSome_or, Members.lookup_isSome_iff.mpr stated,
                Bool.or_true]
            · intro key value other inside found
              obtain ⟨before, rfl⟩ := exists_eq_merge_of_mem ascending inside found
              exact ih (key, other) (Members.mem_of_lookup found) before
      · rw [merge_of_not_alike alike, merge_self (.object ascending each)]

theorem not_interrupts_self : ¬ Interrupts first first last path := by
  intro interrupts
  exact interrupts.apart (interrupts.outer.trans interrupts.outer.symm)

theorem merge_merge_of_base (canonical : IsCanonical base) (overlay : Json) :
    base.merge (base.merge overlay) = base.merge overlay := by
  -- A layer never interrupts itself, so the base may be merged with itself first.
  have regrouped : (base.merge base).merge overlay = base.merge (base.merge overlay) :=
    (merge_assoc_iff canonical).mpr fun path interrupts => absurd interrupts not_interrupts_self
  rw [← regrouped, merge_self canonical]

theorem mergeLayers_repeat_last (canonical : IsCanonical overlay) (layers : List Json) :
    mergeLayers (layers ++ [overlay, overlay]) = mergeLayers (layers ++ [overlay]) := by
  rw [List.append_cons, mergeLayers_concat, mergeLayers_concat]
  cases overlay.isObject with
  | true => exact merge_merge_self canonical _
  | false => rfl

/-- Merging what has been merged already changes nothing: neither the overlay into the result, nor
the result into its base, nor a value into itself, nor the last of several layers once more. -/
theorem merging_again_changes_nothing (baseCanonical : IsCanonical base)
    (overlayCanonical : IsCanonical overlay) :
    (base.merge overlay).merge overlay = base.merge overlay ∧
      base.merge (base.merge overlay) = base.merge overlay ∧
      base.merge base = base ∧
      ∀ layers, mergeLayers (layers ++ [overlay]) = mergeLayers (layers ++ [overlay, overlay]) :=
  ⟨merge_merge_self overlayCanonical base, merge_merge_of_base baseCanonical overlay,
    merge_self baseCanonical, fun layers => (mergeLayers_repeat_last overlayCanonical layers).symm⟩

/-- The longer array keeps its tail where it stands, and an item that replaced an object stays. -/
theorem merging_again_mixed_items :
    let base : Json := .object [("globals", .array [.object [("id", .null)], .ofNat 1, .ofNat 2])]
    let overlay : Json := .object [("globals", .array [.string "off", .array []]), ("undef", .null)]
    IsCanonical base ∧ IsCanonical overlay ∧
      (base.merge overlay).merge overlay = base.merge overlay ∧
      base.merge overlay = .object [("globals", .array [.string "off", .array [], .ofNat 2]),
        ("undef", .null)] := by
  intro base overlay
  have baseCanonical : IsCanonical base := isCanonical_canonical base
  have overlayCanonical : IsCanonical overlay := isCanonical_canonical overlay
  exact ⟨baseCanonical, overlayCanonical,
    (merging_again_changes_nothing baseCanonical overlayCanonical).1, by decide⟩

/-- Of a key that is repeated only one value can be kept, so the values have to be canonical. -/
example : (Json.object [("id", .bool true), ("id", .bool false)]).merge
      (.object [("id", .bool true), ("id", .bool false)]) ≠
    .object [("id", .bool true), ("id", .bool false)] := by
  decide

end MarkupLint.Json

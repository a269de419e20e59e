import MarkupLint.Proofs.Json.Merge
import Mathlib.Data.List.Induction

/-!
# Layers, key by key

An object made by merging layers or by setting a member is described by what can be looked up in
it: under each key it holds what the layers hold there, merged one after the other, and a member
that is set replaces the one of its key only.  Such an object is ordered, and ordered objects with
the same lookups are equal.
-/

namespace MarkupLint.Json

variable {base overlay value other : Json} {key : String}

theorem get?_eq_none_of_not_isObject (notObject : value.isObject = false) (key : String) :
    value.get? key = none := by
  cases value <;> simp [isObject, get?] at notObject ⊢

@[simp]
theorem mergeOptional_none_right (found : Option Json) : mergeOptional found none = found := by
  cases found <;> rfl

@[simp]
theorem mergeOptional_none_left (found : Option Json) : mergeOptional none found = found := by
  cases found <;> rfl

theorem get?_merge (baseObject : base.isObject) (overlayObject : overlay.isObject) (key : String) :
    (base.merge overlay).get? key = mergeOptional (base.get? key) (overlay.get? key) := by
  cases base with
  | object members =>
      cases overlay with
      | object others => simpa only [merge, get?] using lookup_merge members others key
      | _ => simp [isObject] at overlayObject
  | _ => simp [isObject] at baseObject

theorem get?_set_self (takes : value.isObject) (key : String) (member : Json) :
    (value.set key member takes).get? key = some member := by
  cases value with
  | object members => exact Members.lookup_insert_self key member members
  | _ => simp [isObject] at takes

theorem get?_set_of_ne {name : String} (different : name ≠ key) (takes : value.isObject)
    (member : Json) : (value.set key member takes).get? name = value.get? name := by
  cases value with
  | object members => exact Members.lookup_insert_of_ne different member members
  | _ => simp [isObject] at takes

theorem mergeLayers_concat (layers : List Json) (layer : Json) :
    mergeLayers (layers ++ [layer]) =
      if layer.isObject then (mergeLayers layers).merge layer else mergeLayers layers := by
  rw [mergeLayers, List.foldl_append]
  rfl

/-- Merged layers hold under each key what the layers hold there, merged in their order. -/
theorem get?_mergeLayers (layers : List Json) (key : String) :
    (mergeLayers layers).get? key =
      layers.foldl (fun found layer => mergeOptional found (layer.get? key)) none := by
  induction layers using List.reverseRecOn with
  | nil => rfl
  | append_singleton before layer ih =>
      rw [mergeLayers_concat, List.foldl_append, ← ih, List.foldl_cons, List.foldl_nil]
      cases layerObject : layer.isObject with
      | true => exact get?_merge (isObject_mergeLayers before) layerObject key
      | false =>
          rw [get?_eq_none_of_not_isObject layerObject, mergeOptional_none_right]
          rfl

/-- An object with its members in ascending order of their keys. -/
def IsOrdered (value : Json) : Prop :=
  ∃ members, value = .object members ∧ Members.Ascending members

theorem IsOrdered.isObject (ordered : IsOrdered value) : value.isObject := by
  obtain ⟨members, rfl, _⟩ := ordered
  rfl

theorem IsOrdered.set (ordered : IsOrdered value) (key : String) (member : Json)
    (takes : value.isObject) : IsOrdered (value.set key member takes) := by
  obtain ⟨members, rfl, ascending⟩ := ordered
  exact ⟨_, rfl, ascending.insert key member⟩

theorem IsOrdered.merge (ordered : IsOrdered base) (overlayObject : overlay.isObject) :
    IsOrdered (base.merge overlay) := by
  obtain ⟨members, rfl, ascending⟩ := ordered
  cases overlay with
  | object others =>
      rw [Json.merge]
      exact ⟨_, rfl, ascending_addMissing (ascending_mergeMembers ascending others) others⟩
  | _ => simp [Json.isObject] at overlayObject

theorem isOrdered_mergeLayers (layers : List Json) : IsOrdered (mergeLayers layers) := by
  induction layers using List.reverseRecOn with
  | nil => exact ⟨[], rfl, List.Pairwise.nil⟩
  | append_singleton before layer ih =>
      rw [mergeLayers_concat]
      split
      · next layerObject => exact ih.merge layerObject
      · exact ih

/-- Ordered objects are determined by what can be looked up in them. -/
theorem IsOrdered.ext {first second : Json} (firstOrdered : IsOrdered first)
    (secondOrdered : IsOrdered second) (agree : ∀ key, first.get? key = second.get? key) :
    first = second := by
  obtain ⟨members, rfl, ascending⟩ := firstOrdered
  obtain ⟨others, rfl, otherAscending⟩ := secondOrdered
  rw [ascending.ext otherAscending agree]

/-- The members that layers come to when they are merged key by key: under each key of some object
among them stand the values of all objects that have it, merged in their order from the first. -/
structure IsKeyedMerge (layers : List Json) (merged : Members) : Prop where
  ascending : Members.Ascending merged
  keys : ∀ key, key ∈ merged.map Prod.fst ↔
    ∃ members, .object members ∈ layers ∧ key ∈ members.map Prod.fst
  values : ∀ key first rest, layers.filterMap (get? key) = first :: rest →
    merged.lookup key = some (rest.foldl merge first)

section KeyByKey

variable {layers : List Json} {merged : Members}

theorem foldl_mergeOptional_some (layers : List Json) (key : String) (first : Json) :
    layers.foldl (fun found layer => mergeOptional found (layer.get? key)) (some first) =
      some ((layers.filterMap (get? key)).foldl merge first) := by
  induction layers generalizing first with
  | nil => rfl
  | cons layer rest ih =>
      rw [List.foldl_cons]
      cases found : layer.get? key with
      | none => rw [mergeOptional_none_right, ih, List.filterMap_cons_none found]
      | some value =>
          rw [List.filterMap_cons_some found, List.foldl_cons]
          exact ih (first.merge value)

/-- Under a key merged layers hold what the layers with this key hold there, merged in their order
from the first. -/
theorem get?_mergeLayers_eq (layers : List Json) (key : String) :
    (mergeLayers layers).get? key =
      match layers.filterMap (get? key) with
      | [] => none
      | first :: rest => some (rest.foldl merge first) := by
  rw [get?_mergeLayers]
  induction layers with
  | nil => rfl
  | cons layer rest ih =>
      rw [List.foldl_cons, mergeOptional_none_left]
      cases found : layer.get? key with
      | none =>
          rw [List.filterMap_cons_none found]
          exact ih
      | some first =>
          rw [List.filterMap_cons_some found]
          exact foldl_mergeOptional_some rest key first

theorem isSome_get?_iff {key : String} : (value.get? key).isSome ↔
    ∃ members, value = .object members ∧ key ∈ members.map Prod.fst := by
  constructor
  · intro has
    cases value with
    | object members => exact ⟨members, rfl, Members.lookup_isSome_iff.mp has⟩
    | _ => cases has
  · rintro ⟨members, rfl, inside⟩
    exact Members.lookup_isSome_iff.mpr inside

/-- Merged layers have the keys that some object among them has. -/
theorem isSome_get?_mergeLayers_iff {key : String} :
    ((mergeLayers layers).get? key).isSome ↔ ∃ layer ∈ layers, (layer.get? key).isSome := by
  have found : ((mergeLayers layers).get? key).isSome ↔
      ¬ layers.filterMap (get? key) = [] := by
    rw [get?_mergeLayers_eq]
    cases layers.filterMap (get? key) <;> simp
  rw [found, List.filterMap_eq_nil_iff]
  simp [Option.isSome_iff_ne_none]

theorem exists_isKeyedMerge (layers : List Json) :
    ∃ merged, mergeLayers layers = .object merged ∧ IsKeyedMerge layers merged := by
  obtain ⟨merged, same, ascending⟩ := isOrdered_mergeLayers layers
  have lookup_eq (key : String) : merged.lookup key = (mergeLayers layers).get? key := by
    rw [same]
    rfl
  refine ⟨merged, same, ascending, ?_, ?_⟩
  · intro key
    rw [← Members.lookup_isSome_iff, lookup_eq, isSome_get?_mergeLayers_iff]
    simp only [isSome_get?_iff]
    constructor
    · rintro ⟨_, inside, members, rfl, stated⟩
      exact ⟨members, inside, stated⟩
    · rintro ⟨members, inside, stated⟩
      exact ⟨_, inside, members, rfl, stated⟩
  · intro key first rest stated
    rw [lookup_eq, get?_mergeLayers_eq, stated]

/-- Layers that are no objects are passed over. -/
theorem mergeLayers_eq_foldl_filter (layers : List Json) :
    mergeLayers layers = (layers.filter isObject).foldl merge (.object []) :=
  List.foldl_filter.symm

theorem mergeLayers_single (ascending : Members.Ascending merged) :
    mergeLayers [.object merged] = .object merged := by
  refine (isOrdered_mergeLayers _).ext ⟨merged, rfl, ascending⟩ fun key => ?_
  rw [get?_mergeLayers_eq]
  cases found : (Json.object merged).get? key with
  | none => rw [List.filterMap_cons_none found, List.filterMap_nil]
  | some value =>
      rw [List.filterMap_cons_some found, List.filterMap_nil]
      rfl

/-- Layers are merged key by key into an object.  Values that are no objects may be put anywhere
between them or taken out, a key depends on nothing but the values that layers hold under it, and a
single object comes back as it is. -/
theorem mergeLayers_key_by_key (layers : List Json) :
    (∃ merged, mergeLayers layers = .object merged ∧ IsKeyedMerge layers merged) ∧
      (∀ others : List Json, others.filter isObject = layers.filter isObject →
        mergeLayers others = mergeLayers layers) ∧
      (∀ (key : String) (others : List Json),
        others.filterMap (get? key) = layers.filterMap (get? key) →
          (mergeLayers others).get? key = (mergeLayers layers).get? key) ∧
      ∀ members, Members.Ascending members → mergeLayers [.object members] = .object members := by
  refine ⟨exists_isKeyedMerge layers, ?_, ?_, fun _ => mergeLayers_single⟩
  · intro others sameObjects
    rw [mergeLayers_eq_foldl_filter, mergeLayers_eq_foldl_filter, sameObjects]
  · intro key others sameValues
    rw [get?_mergeLayers_eq, get?_mergeLayers_eq, sameValues]

/-- A text between two objects and a null before them do not matter, and the null item of the last
layer replaces the first item only. -/
theorem mergeLayers_key_by_key_two_objects :
    let first : Json := .object [("globals", .array [.ofNat 1, .ofNat 2])]
    let last : Json := .object [("globals", .array [.null]), ("undef", .bool true)]
    let layers : List Json := [first, .string "off", last]
    let others : List Json := [.null, first, last]
    others.filter isObject = layers.filter isObject ∧ mergeLayers others = mergeLayers layers ∧
      layers.filterMap (get? "globals") = [.array [.ofNat 1, .ofNat 2], .array [.null]] ∧
      (mergeLayers layers).get? "globals" = some (.array [.null, .ofNat 2]) := by
  intro first last layers others
  have sameObjects : others.filter isObject = layers.filter isObject := rfl
  have stated : layers.filterMap (get? "globals") =
      [.array [.ofNat 1, .ofNat 2], .array [.null]] := rfl
  obtain ⟨⟨merged, same, keyed⟩, ignoring, _⟩ := mergeLayers_key_by_key layers
  refine ⟨sameObjects, ignoring others sameObjects, stated, ?_⟩
  rw [same]
  exact keyed.values "globals" _ _ stated

end KeyByKey

end MarkupLint.Json

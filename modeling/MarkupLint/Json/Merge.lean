import MarkupLint.Json.Basic
/-!
# Merging values

An overlay is laid over a base: objects are merged key by key, arrays index by index, and anywhere
else the overlay's value replaces the base's. What only one of the two has stays as it is.
-/

namespace MarkupLint.Json

/-- The members together with those of the overlay whose keys they lack. -/
def addMissing (members overlay : Members) : Members :=
  overlay.foldl (fun merged member =>
    if (merged.lookup member.1).isSome then merged else Members.insert member.1 member.2 merged)
    members

mutual

/-- The overlay laid over the base. -/
def merge : (base overlay : Json) → Json
  | .object members, .object overlay =>
      .object (addMissing (mergeMembers members overlay) overlay)
  | .array items, .array overlay => .array (mergeItems items overlay)
  | _, overlay => overlay

/-- The members of the base, each merged with the overlay's value of the same key. -/
def mergeMembers : (members overlay : Members) → Members
  | [], _ => []
  | (key, value) :: rest, overlay =>
      let merged := match overlay.lookup key with
        | some other => merge value other
        | none => value
      (key, merged) :: mergeMembers rest overlay

/-- Items merged by index; the longer list keeps its tail. -/
def mergeItems : (items overlay : List Json) → List Json
  | [], overlay => overlay
  | items, [] => items
  | item :: rest, other :: others => merge item other :: mergeItems rest others

end

/-- Layers merged one after the other onto an empty object; a layer that is not an object
contributes nothing. -/
def mergeLayers (layers : List Json) : Json :=
  layers.foldl (fun merged layer => if layer.isObject then merged.merge layer else merged)
    (.object [])

theorem isObject_merge {base overlay : Json} (baseObject : base.isObject)
    (overlayObject : overlay.isObject) : (base.merge overlay).isObject := by
  cases base <;> cases overlay <;> simp [isObject, merge] at baseObject overlayObject ⊢

theorem isObject_mergeLayers (layers : List Json) : (mergeLayers layers).isObject := by
  have kept : ∀ merged : Json, merged.isObject →
      (layers.foldl (fun merged layer => if layer.isObject then merged.merge layer else merged)
        merged).isObject := by
    induction layers with
    | nil => exact fun _ mergedObject => mergedObject
    | cons layer rest ih =>
        intro merged mergedObject
        apply ih
        dsimp only
        split
        · next layerObject => exact isObject_merge mergedObject layerObject
        · exact mergedObject
  exact kept _ rfl

/-- The value with a member set. Nothing but an object can take a member. -/
def set (value : Json) (key : String) (member : Json) (takes : value.isObject) : Json :=
  match value, takes with
  | .object members, _ => .object (Members.insert key member members)

theorem isObject_set {value : Json} (key : String) (member : Json) (takes : value.isObject) :
    (value.set key member takes).isObject := by
  cases value <;> simp [isObject, set] at takes ⊢

end MarkupLint.Json

import MarkupLint.Proofs.Json.Layers
import MarkupLint.Proofs.RcFile
import MarkupLint.Adapter
import Mathlib.Control.Monad.Basic

/-!
# The layers of the HTML ruleset

The HTML ruleset is an object whatever the preferences hold.  Its sections for scripts and styles
come from the preferences and the files for scripts and styles alone, every other key comes from
the HTML preferences, and the HTML overrides are merged into all of them.
-/

namespace MarkupLint.Adapter

variable {files : FileTree} {workspace : Workspace} {preferences : PreferenceStore}
  {scripts styles overrides : Option Json}

theorem isOrdered_htmlRuleset (overridesObject : ∀ options ∈ overrides, options.isObject) :
    (htmlRuleset preferences scripts styles overrides).IsOrdered := by
  have sections : (htmlRuleset preferences scripts styles none).IsOrdered :=
    ((Json.isOrdered_mergeLayers _).set ..).set ..
  cases overrides with
  | none => exact sections
  | some options => exact sections.merge (overridesObject options rfl)

/-- Under every key the overrides are merged into what the ruleset holds without them. -/
theorem get?_htmlRuleset (overridesObject : ∀ options ∈ overrides, options.isObject)
    (key : String) :
    (htmlRuleset preferences scripts styles overrides).get? key =
      Json.mergeOptional ((htmlRuleset preferences scripts styles none).get? key)
        (overrides.bind (Json.get? key)) := by
  cases overrides with
  | none => rw [Option.bind_none, Json.mergeOptional_none_right]
  | some options =>
      have sections : (htmlRuleset preferences scripts styles none).IsOrdered :=
        isOrdered_htmlRuleset (by simp)
      exact Json.get?_merge sections.isObject (overridesObject options rfl) key

theorem get?_styleKey_htmlRuleset_none :
    (htmlRuleset preferences scripts styles none).get? styleKey =
      some (Json.mergeLayers (preferences.get .cssLint :: styles.toList)) :=
  Json.get?_set_self ..

theorem get?_scriptKey_htmlRuleset_none :
    (htmlRuleset preferences scripts styles none).get? scriptKey =
      some (Json.mergeLayers (preferences.get .jsHint :: scripts.toList)) := by
  rw [htmlRuleset, Json.get?_set_of_ne (by decide), Json.get?_set_self, layered]

theorem get?_htmlRuleset_none {key : String} (notScripts : key ≠ scriptKey)
    (notStyles : key ≠ styleKey) :
    (htmlRuleset preferences scripts styles none).get? key =
      (preferences.get .htmlHint).get? key := by
  rw [htmlRuleset, Json.get?_set_of_ne notStyles, Json.get?_set_of_ne notScripts,
    Json.get?_mergeLayers]
  exact Json.mergeOptional_none_left _

/-- What the HTML preferences hold under the keys of the two sections does not matter. -/
theorem htmlRuleset_congr {others : PreferenceStore}
    (overridesObject : ∀ options ∈ overrides, options.isObject)
    (sameScripts : others.get .jsHint = preferences.get .jsHint)
    (sameStyles : others.get .cssLint = preferences.get .cssLint)
    (sameOthers : ∀ key, key ≠ scriptKey → key ≠ styleKey →
      (others.get .htmlHint).get? key = (preferences.get .htmlHint).get? key) :
    htmlRuleset others scripts styles overrides =
      htmlRuleset preferences scripts styles overrides := by
  apply (isOrdered_htmlRuleset overridesObject).ext (isOrdered_htmlRuleset overridesObject)
  intro key
  rw [get?_htmlRuleset overridesObject, get?_htmlRuleset overridesObject]
  by_cases isScripts : key = scriptKey
  · rw [isScripts, get?_scriptKey_htmlRuleset_none, get?_scriptKey_htmlRuleset_none, sameScripts]
  · by_cases isStyles : key = styleKey
    · rw [isStyles, get?_styleKey_htmlRuleset_none, get?_styleKey_htmlRuleset_none, sameStyles]
    · rw [get?_htmlRuleset_none isScripts isStyles, get?_htmlRuleset_none isScripts isStyles,
        sameOthers key isScripts isStyles]

end MarkupLint.Adapter

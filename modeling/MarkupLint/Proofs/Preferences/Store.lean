import MarkupLint.Preferences.Store
import Mathlib.Data.List.Nodup

/-!
# What writing does to the channels

Options that are written to a namespace replace its value and advance its version, and leave all
other namespaces alone.  A settings document writes the options that it states, each once.
-/

namespace MarkupLint

/-- A channel of a namespace after options have been written to it. -/
def Channel.written (channel : Channel) (selected : Namespace) (options : Json) : Channel :=
  ⟨if options.isNull then selected.builtinOptions else options, channel.version + 1⟩

theorem Namespace.builtinOptions_ne_null (selected : Namespace) :
    selected.builtinOptions ≠ .null := by
  cases selected <;> simp [builtinOptions]

theorem Namespace.mem_all (selected : Namespace) : selected ∈ all := by
  cases selected <;> simp [all]

namespace PreferenceStore

variable (store : PreferenceStore) (selected other : Namespace)

@[simp] theorem channel_builtin : builtin.channel selected = ⟨selected.builtinOptions, 0⟩ := by
  cases selected <;> rfl

theorem channel_withChannel (channel : Channel) :
    (store.withChannel selected channel).channel other =
      if other = selected then channel else store.channel other := by
  cases selected <;> cases other <;> simp [withChannel, PreferenceStore.channel]

theorem channel_set (options : Json) :
    (store.set selected options).channel other =
      if other = selected then (store.channel selected).written selected options
      else store.channel other :=
  channel_withChannel ..

private theorem channel_foldl_set (stated : Namespace → Option Json) {names : List Namespace}
    (distinct : names.Nodup) :
    ((names.filterMap fun name => (stated name).map (name, ·)).foldl
        (fun store (entry : Namespace × Json) => store.set entry.1 entry.2) store).channel other =
      match (if other ∈ names then stated other else none) with
      | some options => (store.channel other).written other options
      | none => store.channel other := by
  induction names generalizing store with
  | nil => rfl
  | cons name rest ih =>
      rw [List.nodup_cons] at distinct
      obtain ⟨notAgain, restDistinct⟩ := distinct
      cases states : stated name with
      | none =>
          rw [List.filterMap_cons_none (by rw [states, Option.map_none]), ih store restDistinct]
          by_cases same : other = name
          · subst same
            simp [notAgain, states]
          · simp [same]
      | some options =>
          rw [List.filterMap_cons_some (by rw [states, Option.map_some]), List.foldl_cons,
            ih _ restDistinct, channel_set]
          by_cases same : other = name
          · subst same
            simp [notAgain, states]
          · simp [same]

/-- A settings document writes to each namespace what it states for it, and nothing else. -/
theorem channel_applyMembers (settings : Json.Members) :
    (store.applyMembers settings).1.channel other =
      match stated? settings other with
      | some options => (store.channel other).written other options
      | none => store.channel other := by
  have applied := channel_foldl_set store other (stated? settings)
    (by decide : Namespace.all.Nodup)
  rw [if_pos other.mem_all] at applied
  exact applied

end PreferenceStore

end MarkupLint

import MarkupLint.Proofs.Preferences.Watching

/-!
# What a settings document does

A settings document that is an object writes to every namespace for which it states options, once
and in the order of the namespaces, and does nothing else.  What it states for a namespace stands
under the flat key, and only where that key is missing in the section of the namespace, if this is
an object.  A document that is no object is rejected before anything is written.
-/

namespace MarkupLint.PreferenceStore

/-- A settings document states some options for a namespace. -/
inductive States (settings : Json.Members) (selected : Namespace) : (options : Json) → Prop
  | flat {options : Json} (found : settings.lookup (selected.name ++ ".options") = some options) :
      States settings selected options
  | nested {options : Json} {inner : Json.Members}
      (notFlat : settings.lookup (selected.name ++ ".options") = none)
      (isSection : settings.lookup selected.name = some (.object inner))
      (found : inner.lookup "options" = some options) : States settings selected options

/-- What has become of a store and which namespaces are reported, after a settings document has
been applied.  A receiver that has not seen more than there is tells of every write. -/
structure IsApplied (settings : Json.Members) (store after : PreferenceStore)
    (reported : List Namespace) : Prop where
  resets : ∀ selected, States settings selected .null →
    after.get selected = selected.builtinOptions
  replaces : ∀ selected options, States settings selected options → options ≠ .null →
    after.get selected = options
  notifies : ∀ receiver : Receiver, (∃ options, States settings receiver.selected options) →
    receiver.seen ≤ (store.channel receiver.selected).version → receiver.hasChanged after = true
  keeps : ∀ selected, (¬ ∃ options, States settings selected options) →
    after.get selected = store.get selected
  keepsQuiet : ∀ receiver : Receiver, (¬ ∃ options, States settings receiver.selected options) →
    receiver.hasChanged after = receiver.hasChanged store
  reports : ∀ selected, selected ∈ reported ↔ ∃ options, States settings selected options
  inOrder : reported.Sublist [.htmlHint, .xmlHint, .cssLint, .jsHint]

variable {settings others : Json.Members} {selected : Namespace} {options : Json}

theorem flatKey_eq (selected : Namespace) : selected.flatKey = selected.name ++ ".options" := by
  cases selected <;> rfl

theorem stated?_eq_some_iff :
    stated? settings selected = some options ↔ States settings selected options := by
  unfold stated?
  rw [flatKey_eq]
  constructor
  · intro states
    cases flat : settings.lookup (selected.name ++ ".options") with
    | some stated =>
        rw [flat] at states
        obtain rfl : stated = options := Option.some.inj states
        exact .flat flat
    | none =>
        rw [flat] at states
        obtain ⟨inner, isSection, found⟩ := Option.bind_eq_some_iff.mp states
        cases inner with
        | object members => exact .nested flat isSection found
        | _ => cases found
  · intro states
    cases states with
    | flat found => rw [found]
    | nested notFlat isSection found =>
        rw [notFlat, isSection]
        exact found

theorem stated?_eq_none_iff :
    stated? settings selected = none ↔ ¬ ∃ options, States settings selected options := by
  simp only [← stated?_eq_some_iff, ← Option.isSome_iff_exists, Option.isSome_iff_ne_none, not_not]

/-- The reported namespaces are those for which options are stated, in the order of all. -/
theorem applyMembers_snd (store : PreferenceStore) (settings : Json.Members) :
    (store.applyMembers settings).2 =
      Namespace.all.filter fun selected => (stated? settings selected).isSome := by
  dsimp only [applyMembers]
  rw [List.map_filterMap, ← List.filterMap_eq_filter]
  congr 1
  funext selected
  cases states : stated? settings selected <;> simp [Option.guard, states]

/-- The options of a namespace after a document that states some for it, or none. -/
def valueAfter (store : PreferenceStore) (selected : Namespace) : (stated : Option Json) → Json
  | none => store.get selected
  | some options => if options.isNull then selected.builtinOptions else options

theorem valueAfter_some_of_ne_null (store : PreferenceStore) (selected : Namespace)
    (notNull : options ≠ .null) : store.valueAfter selected (some options) = options := by
  cases options with
  | null => exact absurd rfl notNull
  | _ => rfl

theorem get_applyMembers (store : PreferenceStore) (settings : Json.Members)
    (selected : Namespace) : (store.applyMembers settings).1.get selected =
      store.valueAfter selected (stated? settings selected) := by
  rw [get, channel_applyMembers]
  cases stated? settings selected <;> rfl

theorem hasChanged_of_written {store after : PreferenceStore} {receiver : Receiver}
    (written : after.channel receiver.selected =
      (store.channel receiver.selected).written receiver.selected options)
    (seen : receiver.seen ≤ (store.channel receiver.selected).version) :
    receiver.hasChanged after = true := by
  have later : receiver.seen ≠ (store.channel receiver.selected).version + 1 := by omega
  rw [Receiver.hasChanged, written]
  exact bne_iff_ne.mpr later

theorem isApplied_applyMembers (store : PreferenceStore) (settings : Json.Members) :
    IsApplied settings store (store.applyMembers settings).1 (store.applyMembers settings).2 := by
  constructor
  case resets =>
    intro selected states
    rw [get_applyMembers, stated?_eq_some_iff.mpr states]
    rfl
  case replaces =>
    intro selected options states notNull
    rw [get_applyMembers, stated?_eq_some_iff.mpr states]
    exact valueAfter_some_of_ne_null store selected notNull
  case notifies =>
    -- Every write advances the version, also one by an equal value or by a reset.
    rintro receiver ⟨options, states⟩ seen
    have written : (store.applyMembers settings).1.channel receiver.selected =
        (store.channel receiver.selected).written receiver.selected options := by
      rw [channel_applyMembers, stated?_eq_some_iff.mpr states]
    exact hasChanged_of_written written seen
  case keeps =>
    intro selected unstated
    rw [get_applyMembers, stated?_eq_none_iff.mpr unstated]
    rfl
  case keepsQuiet =>
    intro receiver unstated
    have kept : (store.applyMembers settings).1.channel receiver.selected =
        store.channel receiver.selected := by
      rw [channel_applyMembers, stated?_eq_none_iff.mpr unstated]
    rw [Receiver.hasChanged, Receiver.hasChanged, kept]
  case reports =>
    intro selected
    rw [applyMembers_snd, List.mem_filter, Option.isSome_iff_exists]
    simp only [selected.mem_all, true_and, stated?_eq_some_iff]
  case inOrder =>
    rw [applyMembers_snd]
    exact List.filter_sublist

theorem apply_eq_error_iff {store : PreferenceStore} {document : Json} :
    (∃ error, store.apply document = .error error) ↔ document.isObject = false := by
  cases document <;> simp [apply, Json.isObject]

/-- Documents with the same statements under the keys of all namespaces do the same. -/
theorem applyMembers_congr (store : PreferenceStore)
    (same : ∀ selected, stated? others selected = stated? settings selected) :
    store.applyMembers others = store.applyMembers settings := by
  have sameStatements : stated? others = stated? settings := funext same
  simp only [applyMembers, sameStatements]

/-- A settings document is applied exactly as it says or rejected with nothing changed, whatever
store it is applied to and whoever watches that store. -/
theorem apply_exactly_or_not_at_all (watched : Watched) (document : Json) :
    ((∃ error, watched.store.apply document = .error error) ↔ document.isObject = false) ∧
      (document.isObject = false → watched.step (.apply document) = watched) ∧
      ∀ settings, document = .object settings →
        (∃ after reported, watched.store.apply document = .ok (after, reported) ∧
          watched.step (.apply document) = { watched with store := after } ∧
          IsApplied settings watched.store after reported) ∧
        ∀ others : Json.Members,
          (∀ selected : Namespace,
            others.lookup (selected.name ++ ".options") =
              settings.lookup (selected.name ++ ".options") ∧
            (others.lookup selected.name).bind (Json.get? "options") =
              (settings.lookup selected.name).bind (Json.get? "options")) →
          watched.store.apply (.object others) = watched.store.apply document := by
  refine ⟨apply_eq_error_iff, ?_, ?_⟩
  · intro notObject
    obtain ⟨error, rejected⟩ := apply_eq_error_iff.mpr notObject
    exact Watched.step_apply_of_error rejected
  · rintro settings rfl
    refine ⟨⟨_, _, rfl, rfl, isApplied_applyMembers watched.store settings⟩, ?_⟩
    intro others same
    refine congrArg Except.ok (applyMembers_congr watched.store fun selected => ?_)
    obtain ⟨sameFlat, sameNested⟩ := same selected
    rw [stated?, stated?, flatKey_eq, sameFlat, Namespace.optionsKey, sameNested]

/-- The null under the flat key of the HTML options wins over their section and restores the
built-in options, a section that is no object states nothing, and the rest goes to its namespace. -/
theorem apply_exactly_or_not_at_all_sample :
    let store := builtin.set .htmlHint (.object [("tag-pair", .bool true)])
    let styles := store.subscribe .cssLint
    let scripts := store.subscribe .jsHint
    let watched : Watched := ⟨store, [styles, scripts], [], []⟩
    let nested (options : Json) : Json := .object [("options", options)]
    let settings : Json.Members := [("csslint", .array [nested .null]), ("editor", .bool true),
      ("htmlhint", nested (.string "off")), ("htmlhint.options", .null),
      ("jshint", nested (.ofNat 5))]
    States settings .htmlHint .null ∧ States settings .jsHint (.ofNat 5) ∧
      (¬ ∃ options, States settings .cssLint options) ∧
      ∃ after reported, watched.store.apply (.object settings) = .ok (after, reported) ∧
        after.get .htmlHint = .object [] ∧ after.get .jsHint = .ofNat 5 ∧
        after.get .cssLint = store.get .cssLint ∧
        scripts.hasChanged after = true ∧ styles.hasChanged after = styles.hasChanged store ∧
        .jsHint ∈ reported ∧ .cssLint ∉ reported := by
  intro store styles scripts watched nested settings
  have htmlStates : States settings .htmlHint .null := .flat (by decide)
  have scriptsState : States settings .jsHint (.ofNat 5) :=
    .nested (by decide) (show settings.lookup "jshint" = some (nested (.ofNat 5)) by decide)
      (by decide)
  have stylesUnstated : ¬ ∃ options, States settings .cssLint options :=
    stated?_eq_none_iff.mp (by decide)
  obtain ⟨after, reported, applied, _, isApplied⟩ :=
    ((apply_exactly_or_not_at_all watched (.object settings)).2.2 settings rfl).1
  refine ⟨htmlStates, scriptsState, stylesUnstated, after, reported, applied,
    isApplied.resets _ htmlStates, isApplied.replaces _ _ scriptsState (by decide),
    isApplied.keeps _ stylesUnstated, ?_, ?_, ?_, ?_⟩
  · exact isApplied.notifies scripts ⟨_, scriptsState⟩ (Nat.le_refl _)
  · exact isApplied.keepsQuiet styles stylesUnstated
  · exact (isApplied.reports .jsHint).mpr ⟨_, scriptsState⟩
  · exact fun inside => stylesUnstated ((isApplied.reports .cssLint).mp inside)

end MarkupLint.PreferenceStore

import MarkupLint.Proofs.Json.Parts
import MarkupLint.Proofs.Preferences.Settings

/-!
# Settings documents carry options from store to store

The options of a store can be written out as a document in either form.  No store that is in use
holds null, which a document would not carry over, so applying the document to any other store gives
it the same options.  Of documents that are applied one after the other only the last one that
states options for a namespace counts, so they can be replaced by a single document that states for
each namespace what that one states.
-/

namespace MarkupLint.PreferenceStore

/-- The document that states options under flat keys. -/
def flatDocument (stated : Namespace → Option Json) : Json :=
  .ofOptionalMembers (Namespace.all.map fun selected =>
    (selected.name ++ ".options", stated selected))

/-- The document that states options in a section for each namespace. -/
def nestedDocument (stated : Namespace → Option Json) : Json :=
  .ofOptionalMembers (Namespace.all.map fun selected =>
    (selected.name, (stated selected).map fun options => .object [("options", options)]))

/-- The options of all namespaces. -/
def exported (store : PreferenceStore) (selected : Namespace) : Option Json :=
  some (store.get selected)

/-- Applied to any store, a document replaces all options by those of another store. -/
def Carries (document : Json) (store : PreferenceStore) : Prop :=
  ∀ other : PreferenceStore, ∃ after, other.apply document = .ok (after, Namespace.all) ∧
    ∀ selected, after.get selected = store.get selected

/-- Apply documents one after the other until one is rejected. -/
def applyAll (store : PreferenceStore) : List Json → Except LintError PreferenceStore
  | [] => .ok store
  | document :: later =>
      match store.apply document with
      | .ok (applied, _) => applied.applyAll later
      | .error error => .error error

/-- Documents that are applied one after the other leave the same options as some others. -/
def LeavesSame (store : PreferenceStore) (documents others : List Json) : Prop :=
  ∃ first second, store.applyAll documents = .ok first ∧ store.applyAll others = .ok second ∧
    ∀ selected, first.get selected = second.get selected

/-- A document states for each namespace what the second of two documents states, and what the first
one does where the second states nothing. -/
def Combines (whole first second : Json.Members) : Prop :=
  ∀ selected options, States whole selected options ↔
    States second selected options ∨
      (¬ ∃ others, States second selected others) ∧ States first selected options

theorem combines_iff {whole first second : Json.Members} : Combines whole first second ↔
    ∀ selected, stated? whole selected = (stated? second selected).or (stated? first selected) := by
  refine forall_congr' fun selected => ?_
  rw [Option.ext_iff]
  refine forall_congr' fun options => ?_
  rw [Option.or_eq_some_iff, stated?_eq_none_iff, stated?_eq_some_iff, stated?_eq_some_iff,
    stated?_eq_some_iff]

section Written

variable (stated : Namespace → Option Json) (selected : Namespace)

theorem get?_byNamespace {key : Namespace → String} (distinct : (Namespace.all.map key).Nodup)
    (part : Namespace → Option Json) (name : String) :
    (Json.ofOptionalMembers (Namespace.all.map fun selected => (key selected, part selected))).get?
        name =
      ((Namespace.all.map fun selected => (key selected, part selected)).lookup name).join := by
  apply Json.get?_ofOptionalMembers
  rw [List.map_map]
  exact distinct

theorem get?_flatDocument_flatKey :
    (flatDocument stated).get? (selected.name ++ ".options") = stated selected := by
  rw [flatDocument, get?_byNamespace (by decide)]
  cases selected <;> rfl

theorem get?_flatDocument_name : (flatDocument stated).get? selected.name = none := by
  rw [flatDocument, get?_byNamespace (by decide)]
  cases selected <;> rfl

theorem get?_nestedDocument_flatKey :
    (nestedDocument stated).get? (selected.name ++ ".options") = none := by
  rw [nestedDocument, get?_byNamespace (by decide)]
  cases selected <;> rfl

theorem get?_nestedDocument_name : (nestedDocument stated).get? selected.name =
    (stated selected).map fun options => .object [("options", options)] := by
  rw [nestedDocument, get?_byNamespace (by decide)]
  cases selected <;> rfl

theorem stated?_eq_or (settings : Json.Members) : stated? settings selected =
    ((Json.object settings).get? (selected.name ++ ".options")).or
      (((Json.object settings).get? selected.name).bind (Json.get? "options")) := by
  rw [stated?, flatKey_eq, Json.get?, Json.get?]
  cases settings.lookup (selected.name ++ ".options") <;> rfl

theorem exists_flatDocument :
    ∃ settings, flatDocument stated = .object settings ∧ stated? settings = stated := by
  obtain ⟨settings, same⟩ : ∃ settings, flatDocument stated = .object settings := ⟨_, rfl⟩
  refine ⟨settings, same, funext fun selected => ?_⟩
  rw [stated?_eq_or, ← same, get?_flatDocument_flatKey, get?_flatDocument_name, Option.bind_none,
    Option.or_none]

theorem exists_nestedDocument :
    ∃ settings, nestedDocument stated = .object settings ∧ stated? settings = stated := by
  obtain ⟨settings, same⟩ : ∃ settings, nestedDocument stated = .object settings := ⟨_, rfl⟩
  refine ⟨settings, same, funext fun selected => ?_⟩
  rw [stated?_eq_or, ← same, get?_nestedDocument_flatKey, get?_nestedDocument_name, Option.none_or]
  cases stated selected <;> rfl

end Written

/-- What the last document that states options for a namespace states for it. -/
def lastStated? : (documents : List Json.Members) → (selected : Namespace) → Option Json
  | [], _ => none
  | settings :: later, selected => (lastStated? later selected).or (stated? settings selected)

/-- Only the last document that states options for a namespace counts. -/
theorem exists_applyAll (store : PreferenceStore) (documents : List Json.Members) :
    ∃ after, store.applyAll (documents.map .object) = .ok after ∧ ∀ selected,
      after.get selected = store.valueAfter selected (lastStated? documents selected) := by
  induction documents generalizing store with
  | nil => exact ⟨store, rfl, fun _ => rfl⟩
  | cons settings later ih =>
      obtain ⟨after, applied, values⟩ := ih (store.applyMembers settings).1
      refine ⟨after, applied, fun selected => ?_⟩
      rw [values, lastStated?]
      cases lastStated? later selected with
      | none => exact get_applyMembers store settings selected
      | some options => rfl

theorem leavesSame_of_lastStated? (store : PreferenceStore) (documents others : List Json.Members)
    (same : ∀ selected, lastStated? documents selected = lastStated? others selected) :
    store.LeavesSame (documents.map .object) (others.map .object) := by
  obtain ⟨first, firstApplied, firstValues⟩ := store.exists_applyAll documents
  obtain ⟨second, secondApplied, secondValues⟩ := store.exists_applyAll others
  refine ⟨first, second, firstApplied, secondApplied, fun selected => ?_⟩
  rw [firstValues, secondValues, same]

theorem carries_of_stated? {store : PreferenceStore} {settings : Json.Members}
    (states : stated? settings = store.exported)
    (notNull : ∀ selected, store.get selected ≠ .null) : Carries (.object settings) store := by
  intro other
  have reported : (other.applyMembers settings).2 = Namespace.all := by
    rw [applyMembers_snd, states]
    rfl
  refine ⟨(other.applyMembers settings).1, congrArg Except.ok (Prod.ext rfl reported), ?_⟩
  intro selected
  rw [get_applyMembers, states, exported, valueAfter_some_of_ne_null _ _ (notNull selected)]

/-- Whatever has been done with a store, either document made of its options carries these to every
other store.  Of two documents that are applied one after the other the second counts wherever it
states anything, so a single document can take their place, and a document that is applied twice
leaves the same options as once. -/
theorem exports_carry_and_documents_compose :
    (∀ uses : List Watched.Use,
      let store := (Watched.start.after uses).store
      Carries (flatDocument store.exported) store ∧
        Carries (nestedDocument store.exported) store) ∧
    (∀ first second : Json.Members,
      (∃ whole, Combines whole first second) ∧
        ∀ whole, Combines whole first second → ∀ store : PreferenceStore,
          store.LeavesSame [.object first, .object second] [.object whole]) ∧
    ∀ (settings : Json.Members) (store : PreferenceStore),
      store.LeavesSame [.object settings, .object settings] [.object settings] := by
  refine ⟨?_, ?_, ?_⟩
  · intro uses store
    -- A null would be taken for a reset, but no store that has been used from the start holds one.
    have notNull (selected : Namespace) : store.get selected ≠ .null := by
      rw [Watched.get_after]
      exact Watched.latest_ne_null uses selected
    obtain ⟨flat, sameFlat, flatStates⟩ := exists_flatDocument store.exported
    obtain ⟨nested, sameNested, nestedStates⟩ := exists_nestedDocument store.exported
    rw [sameFlat, sameNested]
    exact ⟨carries_of_stated? flatStates notNull, carries_of_stated? nestedStates notNull⟩
  · intro first second
    constructor
    · obtain ⟨whole, _, states⟩ := exists_flatDocument fun selected =>
        (stated? second selected).or (stated? first selected)
      exact ⟨whole, combines_iff.mpr (congrFun states)⟩
    · intro whole combines store
      refine leavesSame_of_lastStated? store [first, second] [whole] fun selected => ?_
      simp only [lastStated?, Option.none_or, combines_iff.mp combines selected]
  · intro settings store
    refine leavesSame_of_lastStated? store [settings, settings] [settings] fun selected => ?_
    simp only [lastStated?, Option.none_or, Option.or_self]

/-- A null under a flat key takes back what an earlier document states in a section, in a single
document as well. -/
theorem exports_carry_and_documents_compose_null :
    let nested (options : Json) : Json := .object [("options", options)]
    let first : Json.Members := [("csslint.options", .ofNat 1), ("htmlhint", nested (.ofNat 2))]
    let second : Json.Members := [("htmlhint.options", .null), ("jshint", .string "off")]
    let whole : Json.Members := [("csslint", nested (.ofNat 1)), ("htmlhint.options", .null)]
    let uses : List Watched.Use := [.apply (.object first), .set .jsHint (.bool false)]
    let store := (Watched.start.after uses).store
    Combines whole first second ∧
      store.LeavesSame [.object first, .object second] [.object whole] ∧
      ∃ after, builtin.apply (nestedDocument store.exported) = .ok (after, Namespace.all) ∧
        after.get .htmlHint = .ofNat 2 ∧ after.get .jsHint = .bool false := by
  intro nested first second whole uses store
  have combines : Combines whole first second := by
    refine combines_iff.mpr fun selected => ?_
    cases selected <;> decide
  obtain ⟨carries, composes, _⟩ := exports_carry_and_documents_compose
  obtain ⟨after, applied, values⟩ := (carries uses).2 builtin
  have restored : after.get .htmlHint = .ofNat 2 ∧ after.get .jsHint = .bool false := by
    rw [values, values]
    decide
  exact ⟨combines, (composes first second).2 whole combines store, after, applied, restored⟩

end MarkupLint.PreferenceStore

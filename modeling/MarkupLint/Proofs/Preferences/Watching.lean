import MarkupLint.Preferences.Observer
import MarkupLint.Proofs.Preferences.Store
import Mathlib.Data.List.Induction

/-!
# Everyone who watches the preferences sees the latest options

A store is written to by single settings and by whole documents, while receivers and the defaults of
adapters watch it and values that have been read are kept.  Whoever looks, wherever they look, reads
what was last written to the namespace, or its built-in options.  A receiver tells of a change
exactly if its own namespace has been written to since it was made or last marked what it saw.
-/

namespace MarkupLint

/-- A store, everything that watches it, and the values that have been read from it. -/
structure Watched where
  store : PreferenceStore
  receivers : List Receiver
  defaults : List LintDefaults
  kept : List Json

namespace Watched

/-- Where the options of a namespace can be read. -/
inductive Source where
  | store (selected : Namespace)
  | receiver (index : Nat)
  | defaults (index : Nat) (selected : Namespace)

/-- What can be done with a store.  Looking keeps the value that was read, and marking does so too
and counts the value as seen. -/
inductive Use where
  | set (selected : Namespace) (options : Json)
  | apply (settings : Json)
  | subscribe (selected : Namespace)
  | makeDefaults
  | look (source : Source)
  | mark (index : Nat)

/-- A new store that nothing watches. -/
def start : Watched := ⟨.builtin, [], [], []⟩

/-- The namespace whose options are read at a source, if there is such a source. -/
def namespace? (watched : Watched) : Source → Option Namespace
  | .store selected => some selected
  | .receiver index => watched.receivers[index]?.map Receiver.selected
  | .defaults index selected => watched.defaults[index]?.map fun _ => selected

/-- What is read at a source, if there is such a source. -/
def value? (watched : Watched) : Source → Option Json
  | .store selected => some (watched.store.get selected)
  | .receiver index => watched.receivers[index]?.map fun receiver => receiver.current watched.store
  | .defaults index selected =>
      watched.defaults[index]?.map fun defaults => defaults.options watched.store selected

/-- Use a store. -/
def step (watched : Watched) : Use → Watched
  | .set selected options => { watched with store := watched.store.set selected options }
  | .apply settings =>
      match watched.store.apply settings with
      | .ok (store, _) => { watched with store }
      | .error _ => watched
  | .subscribe selected =>
      { watched with receivers := watched.receivers ++ [watched.store.subscribe selected] }
  | .makeDefaults => { watched with defaults := watched.defaults ++ [.ofStore watched.store] }
  | .look source => { watched with kept := watched.kept ++ (watched.value? source).toList }
  | .mark index =>
      { watched with
        receivers := watched.receivers.modify index fun receiver => receiver.markSeen watched.store
        kept := watched.kept ++ (watched.value? (.receiver index)).toList }

/-- Use a store time and again. -/
def after (watched : Watched) (uses : List Use) : Watched := uses.foldl step watched

namespace Use

/-- The options that a use writes to a namespace; a document that is no object writes nothing. -/
def written? (selected : Namespace) : Use → Option Json
  | .set other options => if other = selected then some options else none
  | .apply (.object settings) => PreferenceStore.stated? settings selected
  | _ => none

/-- Where a use reads. -/
def source? : Use → Option Source
  | .look source => some source
  | .mark index => some (.receiver index)
  | _ => none

end Use

/-- Whether some use writes to a namespace. -/
def Writes (uses : List Use) (selected : Namespace) : Prop :=
  ∃ use ∈ uses, (use.written? selected).isSome

/-- The options that were last written to a namespace; the built-in ones if these are null or none
were written. -/
def latest (uses : List Use) (selected : Namespace) : Json :=
  ((uses.filterMap (Use.written? selected)).getLast?.filter fun options => !options.isNull).getD
    selected.builtinOptions

variable {watched : Watched} {use : Use} {uses : List Use} {selected : Namespace} {index : Nat}
  {receiver : Receiver}

theorem after_append (watched : Watched) (first second : List Use) :
    watched.after (first ++ second) = (watched.after first).after second :=
  List.foldl_append

theorem after_concat (watched : Watched) (uses : List Use) (use : Use) :
    watched.after (uses ++ [use]) = (watched.after uses).step use :=
  after_append watched uses [use]

theorem step_apply_of_error {settings : Json} {error : LintError}
    (rejected : watched.store.apply settings = .error error) :
    watched.step (.apply settings) = watched := by
  simp only [step, rejected]

/-- A use changes a channel exactly if it writes to its namespace. -/
theorem channel_step (watched : Watched) (use : Use) (selected : Namespace) :
    (watched.step use).store.channel selected =
      match use.written? selected with
      | some options => (watched.store.channel selected).written selected options
      | none => watched.store.channel selected := by
  cases use with
  | set other options =>
      simp only [step, Use.written?, PreferenceStore.channel_set]
      by_cases same : other = selected
      · subst same
        simp
      · simp [same, Ne.symm same]
  | apply settings =>
      cases settings with
      | object members => exact PreferenceStore.channel_applyMembers ..
      | _ => rfl
  | subscribe | makeDefaults | look | mark => rfl

theorem version_after (watched : Watched) (uses : List Use) (selected : Namespace) :
    ((watched.after uses).store.channel selected).version =
      (watched.store.channel selected).version +
        uses.countP fun use => (use.written? selected).isSome := by
  induction uses generalizing watched with
  | nil => rfl
  | cons use later ih =>
      have rest := ih (watched.step use)
      have here := channel_step watched use selected
      rw [List.countP_cons]
      change ((watched.step use).after later |>.store.channel selected).version = _
      rw [rest, here]
      cases use.written? selected with
      | none => simp
      | some options =>
          simp only [Channel.written, Option.isSome_some, if_true]
          omega

theorem latest_concat (uses : List Use) (use : Use) (selected : Namespace) :
    latest (uses ++ [use]) selected =
      match use.written? selected with
      | some options => if options.isNull then selected.builtinOptions else options
      | none => latest uses selected := by
  unfold latest
  cases writes : use.written? selected with
  | none => simp [writes]
  | some options =>
      rw [List.filterMap_append, List.filterMap_cons_some writes, List.filterMap_nil,
        List.getLast?_concat]
      cases null : options.isNull <;> simp [Option.filter, null]

theorem latest_ne_null (uses : List Use) (selected : Namespace) : latest uses selected ≠ .null := by
  induction uses using List.reverseRecOn with
  | nil => exact selected.builtinOptions_ne_null
  | append_singleton before use ih =>
      rw [latest_concat]
      cases use.written? selected with
      | none => exact ih
      | some options =>
          cases options with
          | null => exact selected.builtinOptions_ne_null
          | _ => simp [Json.isNull]

theorem get_after (uses : List Use) (selected : Namespace) :
    (start.after uses).store.get selected = latest uses selected := by
  induction uses using List.reverseRecOn with
  | nil => exact congrArg Channel.value (PreferenceStore.channel_builtin selected)
  | append_singleton before use ih =>
      rw [after_concat, PreferenceStore.get, channel_step, latest_concat, ← ih]
      cases use.written? selected <;> rfl

/-- The defaults of adapters watch under each namespace that namespace. -/
theorem selected_of_mem_defaults {defaults : LintDefaults}
    (inside : defaults ∈ (start.after uses).defaults) (selected : Namespace) :
    (defaults.receiver selected).selected = selected := by
  induction uses using List.reverseRecOn with
  | nil => cases inside
  | append_singleton before use ih =>
      rw [after_concat] at inside
      cases use with
      | makeDefaults =>
          rcases List.mem_append.mp inside with already | new
          · exact ih already
          · obtain rfl := List.mem_singleton.mp new
            cases selected <;> rfl
      | apply settings =>
          simp only [step] at inside
          split at inside <;> exact ih inside
      | set | subscribe | look | mark => exact ih inside

theorem value?_after {source : Source}
    (reads : (start.after uses).namespace? source = some selected) :
    (start.after uses).value? source = some (latest uses selected) := by
  rw [← get_after]
  cases source with
  | store other =>
      obtain rfl := Option.some.inj reads
      rfl
  | receiver index =>
      obtain ⟨receiver, found, rfl⟩ := Option.map_eq_some_iff.mp reads
      exact Option.map_eq_some_iff.mpr ⟨receiver, found, rfl⟩
  | defaults index other =>
      obtain ⟨defaults, found, rfl⟩ := Option.map_eq_some_iff.mp reads
      have watches := selected_of_mem_defaults (List.mem_of_getElem? found) other
      refine Option.map_eq_some_iff.mpr ⟨defaults, found, ?_⟩
      rw [LintDefaults.options, Receiver.current, watches]

theorem kept_step (watched : Watched) (use : Use) :
    (watched.step use).kept = watched.kept ++ (use.source?.bind watched.value?).toList := by
  cases use with
  | apply settings =>
      simp only [step]
      split <;> simp [Use.source?]
  | set | subscribe | makeDefaults => simp [step, Use.source?]
  | look | mark => rfl

theorem kept_prefix_after (watched : Watched) (uses : List Use) :
    watched.kept <+: (watched.after uses).kept := by
  induction uses generalizing watched with
  | nil => exact List.prefix_refl _
  | cons use later ih =>
      have now : watched.kept <+: (watched.step use).kept := by
        rw [kept_step]
        exact List.prefix_append ..
      exact now.trans (ih (watched.step use))

/-- What was read once is kept as it was. -/
theorem kept_after {before later : List Use} {source : Source} (keeps : use.source? = some source)
    (reads : (start.after before).namespace? source = some selected) :
    (start.after (before ++ use :: later)).kept[(start.after before).kept.length]? =
      some (latest before selected) := by
  have value := value?_after reads
  have stays := kept_prefix_after ((start.after before).step use) later
  rw [kept_step, keeps, Option.bind_some, value] at stays
  obtain ⟨more, whole⟩ := stays
  rw [List.append_cons, after_append, after_concat, ← whole]
  simp

theorem receivers_step_of_ne (found : watched.receivers[index]? = some receiver)
    (unmarked : use ≠ .mark index) : (watched.step use).receivers[index]? = some receiver := by
  cases use with
  | subscribe selected =>
      have bound := (List.getElem?_eq_some_iff.mp found).1
      rw [step, List.getElem?_append_left bound]
      exact found
  | mark other =>
      have different : other ≠ index := by
        rintro rfl
        exact unmarked rfl
      rw [step, List.getElem?_modify, found]
      simp [different]
  | apply settings =>
      simp only [step]
      split <;> exact found
  | set | makeDefaults | look => exact found

theorem receivers_after_of_unmarked (found : watched.receivers[index]? = some receiver)
    (unmarked : ∀ use ∈ uses, use ≠ .mark index) :
    (watched.after uses).receivers[index]? = some receiver := by
  induction uses generalizing watched with
  | nil => exact found
  | cons use later ih =>
      rw [List.forall_mem_cons] at unmarked
      exact ih (receivers_step_of_ne found unmarked.1) unmarked.2

/-- A receiver that has seen everything so far tells of a change exactly after a write to its own
namespace. -/
theorem hasChanged_after (upToDate : receiver = watched.store.subscribe selected)
    (uses : List Use) :
    receiver.hasChanged (watched.after uses).store = true ↔ Writes uses selected := by
  subst upToDate
  have version := version_after watched uses selected
  have changed : (watched.store.subscribe selected).hasChanged (watched.after uses).store = true ↔
      0 < uses.countP fun use => (use.written? selected).isSome := by
    simp only [Receiver.hasChanged, PreferenceStore.subscribe, bne_iff_ne, version]
    omega
  rw [changed, List.countP_pos_iff]
  rfl

theorem exists_receiver_after (upToDate : watched.receivers[index]? =
      some (watched.store.subscribe selected)) (unmarked : ∀ use ∈ uses, use ≠ .mark index) :
    ∃ receiver, (watched.after uses).receivers[index]? = some receiver ∧
      receiver.selected = selected ∧
      (receiver.hasChanged (watched.after uses).store = true ↔ Writes uses selected) :=
  ⟨_, receivers_after_of_unmarked upToDate unmarked, rfl, hasChanged_after rfl uses⟩

theorem receivers_step_subscribe (watched : Watched) (selected : Namespace) :
    (watched.step (.subscribe selected)).receivers[watched.receivers.length]? =
      some ((watched.step (.subscribe selected)).store.subscribe selected) := by
  simp [step]

theorem receivers_step_mark (watches : watched.namespace? (.receiver index) = some selected) :
    (watched.step (.mark index)).receivers[index]? =
      some ((watched.step (.mark index)).store.subscribe selected) := by
  obtain ⟨receiver, found, rfl⟩ := Option.map_eq_some_iff.mp watches
  simp [step, found, Receiver.markSeen]

/-- A use that writes nothing to a namespace leaves its value alone, and every receiver of it that
is not marked by the use. -/
theorem unwritten_step (unwritten : use.written? selected = none) :
    (watched.step use).store.get selected = watched.store.get selected ∧
      ∀ index receiver, watched.receivers[index]? = some receiver →
        receiver.selected = selected → use ≠ .mark index →
        (watched.step use).receivers[index]? = some receiver ∧
          receiver.hasChanged (watched.step use).store = receiver.hasChanged watched.store := by
  have same := channel_step watched use selected
  rw [unwritten] at same
  refine ⟨congrArg Channel.value same, ?_⟩
  rintro index receiver found rfl unmarked
  refine ⟨receivers_step_of_ne found unmarked, ?_⟩
  rw [Receiver.hasChanged, Receiver.hasChanged, same]

/-- What holds of a store and all that watches it, whatever has been done with it. -/
structure SeesLatest (uses : List Use) : Prop where
  /-- Every source shows what was last written to its namespace. -/
  reads : ∀ source selected, (start.after uses).namespace? source = some selected →
    (start.after uses).value? source = some (latest uses selected)
  /-- No namespace ever holds null. -/
  notNull : ∀ selected, (start.after uses).store.get selected ≠ .null
  /-- A value that was read stays what it was when it was read. -/
  keeps : ∀ before use later source selected, uses = before ++ use :: later →
    use.source? = some source → (start.after before).namespace? source = some selected →
      (start.after uses).kept[(start.after before).kept.length]? = some (latest before selected)
  /-- Until it marks what it saw, a receiver tells of the writes since it was made. -/
  sinceMade : ∀ before selected later, uses = before ++ .subscribe selected :: later →
    (∀ use ∈ later, use ≠ .mark (start.after before).receivers.length) →
      ∃ receiver,
        (start.after uses).receivers[(start.after before).receivers.length]? = some receiver ∧
        receiver.selected = selected ∧
        (receiver.hasChanged (start.after uses).store = true ↔ Writes later selected)
  /-- After it has marked what it saw, a receiver tells of the writes since the last mark. -/
  sinceMarked : ∀ before index later selected, uses = before ++ .mark index :: later →
    (start.after before).namespace? (.receiver index) = some selected →
    (∀ use ∈ later, use ≠ .mark index) →
      ∃ receiver, (start.after uses).receivers[index]? = some receiver ∧
        receiver.selected = selected ∧
        (receiver.hasChanged (start.after uses).store = true ↔ Writes later selected)
  /-- What does not write to a namespace changes neither its value nor what its receivers tell. -/
  unwritten : ∀ use selected, use.written? selected = none →
    ((start.after uses).step use).store.get selected = (start.after uses).store.get selected ∧
      ∀ index receiver, (start.after uses).receivers[index]? = some receiver →
        receiver.selected = selected → use ≠ .mark index →
        ((start.after uses).step use).receivers[index]? = some receiver ∧
          receiver.hasChanged ((start.after uses).step use).store =
            receiver.hasChanged (start.after uses).store
  /-- A settings document that is rejected changes nothing at all. -/
  rejected : ∀ settings error, (start.after uses).store.apply settings = .error error →
    (start.after uses).step (.apply settings) = start.after uses

/-- However a store is used, everyone who watches it sees the latest options, and is told of the
writes to its own namespace and of no others. -/
theorem watchers_see_latest (uses : List Use) : SeesLatest uses where
  reads _ _ reads := value?_after reads
  notNull selected := by
    rw [get_after]
    exact latest_ne_null uses selected
  keeps := by
    rintro before use later source selected rfl keeps reads
    exact kept_after keeps reads
  sinceMade := by
    rintro before selected later rfl unmarked
    rw [List.append_cons, after_append, after_concat]
    exact exists_receiver_after (receivers_step_subscribe ..) unmarked
  sinceMarked := by
    rintro before index later selected rfl watches unmarked
    rw [List.append_cons, after_append, after_concat]
    exact exists_receiver_after (receivers_step_mark watches) unmarked
  unwritten _ _ unwritten := unwritten_step unwritten
  rejected _ _ rejected := step_apply_of_error rejected

/-- Options that are applied after they were read show at a receiver of their namespace, which tells
of the change, and not at one of another namespace.  The value that was read before is kept, and a
document that is no object does nothing more. -/
theorem watchers_see_latest_applied :
    let settings : Json := .object [("jshint.options", .object [("curly", .bool true)])]
    let uses : List Use :=
      [.subscribe .jsHint, .subscribe .cssLint, .look (.receiver 0), .apply settings]
    let watched := start.after uses
    watched.value? (.receiver 0) = some (.object [("curly", .bool true)]) ∧
      watched.kept[0]? = some (.object []) ∧
      (∃ receiver, watched.receivers[0]? = some receiver ∧
        receiver.hasChanged watched.store = true) ∧
      (∃ receiver, watched.receivers[1]? = some receiver ∧
        receiver.hasChanged watched.store = false) ∧
      watched.step (.apply (.array [])) = watched := by
  intro settings uses watched
  have sees := watchers_see_latest uses
  have applied : Writes [.subscribe .cssLint, .look (.receiver 0), .apply settings] .jsHint :=
    ⟨.apply settings, by simp, by decide +kernel⟩
  have others : ¬ Writes [.look (.receiver 0), .apply settings] .cssLint := by
    rintro ⟨use, inside, writes⟩
    simp only [List.mem_cons, List.not_mem_nil, or_false] at inside
    rcases inside with rfl | rfl
    · cases writes
    · exact absurd writes (by decide +kernel)
  obtain ⟨first, foundFirst, _, tellsFirst⟩ :=
    sees.sinceMade [] .jsHint [.subscribe .cssLint, .look (.receiver 0), .apply settings] rfl
      (by simp)
  obtain ⟨second, foundSecond, _, tellsSecond⟩ :=
    sees.sinceMade [.subscribe .jsHint] .cssLint [.look (.receiver 0), .apply settings] rfl
      (by simp)
  refine ⟨?_, ?_, ⟨first, foundFirst, tellsFirst.mpr applied⟩,
    ⟨second, foundSecond, Bool.eq_false_iff.mpr (mt tellsSecond.mp others)⟩,
    sees.rejected (.array []) _ rfl⟩
  · have latestOptions : latest uses .jsHint = .object [("curly", .bool true)] := by
      decide +kernel
    rw [← latestOptions]
    exact sees.reads (.receiver 0) .jsHint rfl
  · exact sees.keeps [.subscribe .jsHint, .subscribe .cssLint] (.look (.receiver 0))
      [.apply settings] (.receiver 0) .jsHint rfl rfl rfl

end Watched

end MarkupLint

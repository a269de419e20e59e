import MarkupLint.Server.Protocol
import MarkupLint.Proofs.EngineSwap
import MarkupLint.Proofs.Json.Decoding
import MarkupLint.Proofs.Preferences.Settings
import MarkupLint.Proofs.Server.Runs

/-!
# Settings and options that a host sends

A host sends settings when they change, alone or in a section, and may send some among the options
with which it starts a session.  Either way they are taken as they are or they do nothing: the open
documents are scanned again exactly if the settings state options for some namespace, and what does
not is not even noticed.  Options that cannot be read change nothing, not even by the settings among
them; in those that can be read, settings and engine do not depend on each other.

Preferences and project are shared by all services of a host, so a service with another engine finds
what was just applied.
-/

namespace MarkupLint

open Json (Fields)

/-- The configuration of an engine that a value states: a command, and arguments that may be left
out. -/
def EngineConfig.IsReadFrom (value : Json) (config : EngineConfig) : Prop :=
  ∃ stated, value.fields "EngineConfig" ["command", "args"] = .ok stated ∧
    stated.lookup "command" = some (.string config.program) ∧
    (stated.lookup "args" = some (.array (config.arguments.map .string)) ∨
      (stated.lookup "args" = none ∧ config.arguments = []))

theorem Json.decodeList_string_eq_ok {value : Json} {texts : List String} :
    decodeList decodeString value = .ok texts ↔ value = .array (texts.map .string) := by
  cases value with
  | array items =>
      rw [decodeList, mapM_eq_ok, Json.array.injEq]
      simp only [decodeString_eq_ok]
      induction items generalizing texts with
      | nil => simp [List.forall₂_nil_left_iff]
      | cons item rest ih =>
          rw [List.forall₂_cons_left_iff]
          cases texts with
          | nil => simp
          | cons text others => simp [ih]
  | _ => simp [decodeList]

theorem EngineConfig.decode_eq_ok_iff {value : Json} {config : EngineConfig} :
    decode value = .ok config ↔ config.IsReadFrom value := by
  unfold decode IsReadFrom
  simp only [Json.Decoded.bind_eq_ok, Fields.defaulted_eq_ok, Fields.required_eq_ok,
    Json.decodeList_string_eq_ok, Json.decodeString_eq_ok]
  constructor
  · rintro ⟨stated, read, arguments, givenArguments, program, ⟨_, found, rfl⟩, same⟩
    obtain rfl := Except.ok.inj same
    refine ⟨stated, read, found, givenArguments.imp_left ?_⟩
    rintro ⟨_, foundList, rfl⟩
    exact foundList
  · rintro ⟨stated, read, found, givenArguments⟩
    exact ⟨stated, read, config.arguments,
      givenArguments.imp_left fun foundList => ⟨_, foundList, rfl⟩, config.program,
      ⟨_, found, rfl⟩, rfl⟩

namespace Server

/-- The options that a value states: settings of any kind and the configuration of an engine, both
of which may be left out or be null. -/
def StartOptions.IsReadFrom (value : Json) (options : StartOptions) : Prop :=
  ∃ stated, value.fields "InitializationOptions" ["preferences", "engine"] = .ok stated ∧
    (∀ sent, options.preferences = some sent ↔ stated.Gives "preferences" sent) ∧
    (∀ part, stated.Gives "engine" part → ∃ config : EngineConfig, config.IsReadFrom part) ∧
    ∀ config, options.engine = some config ↔
      ∃ part, stated.Gives "engine" part ∧ config.IsReadFrom part

theorem StartOptions.decode_eq_ok_iff {value : Json} {options : StartOptions} :
    decode value = .ok options ↔ options.IsReadFrom value := by
  have anySettings {stated : Fields} {preferences : Option Json} :
      stated.optional "preferences" Json.decodeAny = .ok preferences ↔
        ∀ sent, preferences = some sent ↔ stated.Gives "preferences" sent := by
    simp [Fields.optional_eq_ok, Json.decodeAny]
  unfold decode IsReadFrom
  simp only [Json.Decoded.bind_eq_ok, anySettings, Fields.optional_eq_ok,
    EngineConfig.decode_eq_ok_iff]
  constructor
  · rintro ⟨stated, read, engine, ⟨readable, givenEngine⟩, preferences, givenSettings, same⟩
    obtain rfl := Except.ok.inj same
    exact ⟨stated, read, givenSettings, readable, givenEngine⟩
  · rintro ⟨stated, read, givenSettings, readable, givenEngine⟩
    exact ⟨stated, read, options.engine, ⟨readable, givenEngine⟩, options.preferences,
      givenSettings, rfl⟩

/-- The settings in what a host sends: what stands in the section, whatever it is, or else all of
it. -/
inductive Holds (sent : Json) : (settings : Json) → Prop
  | nested {members : Json.Members} {settings : Json} (isObject : sent = .object members)
      (found : members.lookup "markuphint" = some settings) : Holds sent settings
  | whole (notNested : ∀ members, sent = .object members → members.lookup "markuphint" = none) :
      Holds sent sent

/-- Settings that are an object and state options for some namespace. -/
def GivesOptions (settings : Json) : Prop :=
  ∃ members, settings = .object members ∧
    ∃ selected options, PreferenceStore.States members selected options

/-- What becomes of a workspace when a host sends some settings. -/
structure IsSettled (sent : Json) (before after : Workspace) : Prop where
  root : after.root = before.root
  applies : ∀ members, Holds sent (.object members) →
    ∃ reported, PreferenceStore.IsApplied members before.preferences after.preferences reported
  drops : ∀ settings, Holds sent settings → ¬ GivesOptions settings → after = before

theorem unwrapSettings_object (members : Json.Members) :
    Session.unwrapSettings (.object members) =
      (members.lookup "markuphint").getD (.object members) :=
  rfl

theorem holds_iff {sent settings : Json} :
    Holds sent settings ↔ Session.unwrapSettings sent = settings := by
  constructor
  · intro holds
    cases holds with
    | nested isObject found => rw [isObject, unwrapSettings_object, found, Option.getD_some]
    | whole notNested =>
        cases sent with
        | object members => rw [unwrapSettings_object, notNested members rfl, Option.getD_none]
        | _ => rfl
  · rintro rfl
    cases sent with
    | object members =>
        rw [unwrapSettings_object]
        cases found : members.lookup "markuphint" with
        | some settings => exact .nested rfl found
        | none => exact .whole fun others same => by rw [← Json.object.inj same, found]
    | _ => exact .whole fun _ same => nomatch same

section Settings

variable {session : Session} {world : World} {sent settings : Json}

theorem givesOptions_object_iff {store : PreferenceStore} {members : Json.Members} :
    GivesOptions (.object members) ↔ (store.applyMembers members).2 ≠ [] := by
  have reported := (PreferenceStore.isApplied_applyMembers store members).reports
  simp only [ne_eq, List.eq_nil_iff_forall_not_mem, not_forall, not_not, reported, GivesOptions,
    Json.object.injEq, exists_eq_left']

theorem applySettings_of_object {members : Json.Members} (holds : Holds sent (.object members)) :
    session.applySettings sent =
      ({ session with workspace := { session.workspace with
          preferences := (session.workspace.preferences.applyMembers members).1 } },
        (session.workspace.preferences.applyMembers members).2) := by
  rw [Session.applySettings, holds_iff.mp holds]
  rfl

theorem applySettings_snd_eq_nil_iff (session : Session) (holds : Holds sent settings) :
    (session.applySettings sent).2 = [] ↔ ¬ GivesOptions settings := by
  cases settings with
  | object members =>
      rw [applySettings_of_object holds, givesOptions_object_iff, not_not]
  | _ =>
      rw [Session.applySettings, holds_iff.mp holds]
      simp [Workspace.applySettings, PreferenceStore.apply, Except.map, GivesOptions]

theorem isSettled_applySettings (session : Session) (sent : Json) :
    IsSettled sent session.workspace (session.applySettings sent).1.workspace := by
  constructor
  case root => exact (Session.applySettings_fixed sent).2.2.2
  case applies =>
    intro members holds
    rw [applySettings_of_object holds]
    exact ⟨_, PreferenceStore.isApplied_applyMembers session.workspace.preferences members⟩
  case drops =>
    intro settings holds noOptions
    rw [Session.applySettings_eq_self ((applySettings_snd_eq_nil_iff session holds).mpr noOptions)]

/-- What is published when every open document is scanned: the markers of its stored text, for each
document that an adapter handles. -/
def Session.rescans (session : Session) (world : World) : List Publication :=
  session.documents.entries.filterMap fun entry =>
    (session.markers? world entry.1 entry.2.text).map fun markers =>
      ⟨entry.1, markers, some entry.2.version⟩

theorem checkAll_publications_eq_rescans (session : Session) (world : World) :
    (session.checkAll world).publications = session.rescans world := by
  rw [Session.checkAll_publications, Session.rescans, List.filterMap_eq_flatMap_toList]
  simp only [Session.check_publications]

theorem exists_mem_rescans {uri : Uri} {document : Document}
    (known : session.documents.get? uri = some document) (handled : session.service.Handles uri) :
    ∃ publication ∈ session.rescans world, publication.uri = uri := by
  have isSome := (Session.isSome_markers?_iff world uri document.text).mpr handled
  obtain ⟨markers, shown⟩ := Option.isSome_iff_exists.mp isSome
  obtain ⟨before, after, entries, _⟩ := List.lookup_eq_some_iff.mp known
  have inside : (uri, document) ∈ session.documents.entries := by simp [entries]
  refine ⟨⟨uri, markers, some document.version⟩, List.mem_filterMap.mpr ⟨_, inside, ?_⟩, rfl⟩
  rw [shown, Option.map_some]

theorem step_settingsChanged_of_not_givesOptions (holds : Holds sent settings)
    (noOptions : ¬ GivesOptions settings) :
    session.step world (.settingsChanged sent) = (session, .nothing) := by
  have unreported := (applySettings_snd_eq_nil_iff session holds).mpr noOptions
  have same := Session.applySettings_eq_self unreported
  simp only [Session.step, unreported, same, List.isEmpty_nil, if_true]

theorem step_settingsChanged_of_givesOptions (holds : Holds sent settings)
    (options : GivesOptions settings) :
    (session.step world (.settingsChanged sent)).2.publications =
      (session.step world (.settingsChanged sent)).1.rescans world := by
  have reported : (session.applySettings sent).2 ≠ [] :=
    fun unreported => (applySettings_snd_eq_nil_iff session holds).mp unreported options
  rw [Session.step_settingsChanged_publications, Session.step_settingsChanged_fst,
    if_neg (by simpa using reported), checkAll_publications_eq_rescans]

theorem exists_publication_iff (holds : Holds sent settings) {uri : Uri} {document : Document}
    (known : session.documents.get? uri = some document) (handled : session.service.Handles uri) :
    (∃ publication ∈ (session.step world (.settingsChanged sent)).2.publications,
      publication.uri = uri) ↔ GivesOptions settings := by
  constructor
  · rintro ⟨publication, published, _⟩
    by_contra noOptions
    rw [step_settingsChanged_of_not_givesOptions holds noOptions] at published
    exact absurd published List.not_mem_nil
  · intro options
    rw [step_settingsChanged_of_givesOptions holds options, Session.step_settingsChanged_fst]
    have documents : (session.applySettings sent).1.documents = session.documents :=
      (Session.applySettings_fixed sent).1
    have service : (session.applySettings sent).1.service = session.service :=
      (Session.applySettings_fixed sent).2.2.1
    exact exists_mem_rescans (by rw [documents, known]) (service ▸ handled)

end Settings

section Options

variable {session : Session} {value : Json} {options : StartOptions}

/-- What becomes of a session that is started with some options. -/
structure IsStarted [Process.Runner] (options : StartOptions) (before after : Session) :
    Prop where
  settles : ∀ sent, options.preferences = some sent →
    IsSettled sent before.workspace after.workspace
  keepsWorkspace : options.preferences = none → after.workspace = before.workspace
  /-- The stated engine takes the place of both engines and of nothing else. -/
  replacesEngine : ∀ config, options.engine = some config →
    after.service = ⟨before.service.registry, ⟨config.engine, config.engine⟩⟩
  keepsEngine : options.engine = none → after.service = before.service
  rest : after = { before with workspace := after.workspace, service := after.service }

/-- The session after the settings among some options. -/
def Session.withSettings (session : Session) : (settings? : Option Json) → Session
  | some sent => (session.applySettings sent).1
  | none => session

/-- The service after the engine among some options. -/
def Session.serviceFor [Process.Runner] (session : Session) :
    (engine? : Option EngineConfig) → LintService
  | some config => session.service.withEngines (.shared config.engine)
  | none => session.service

theorem Session.withSettings_eq (session : Session) (settings? : Option Json) :
    session.withSettings settings? =
      { session with workspace := (session.withSettings settings?).workspace } := by
  cases settings? with
  | none => rfl
  | some sent =>
      simp only [withSettings, applySettings]
      cases session.workspace.applySettings (unwrapSettings sent) <;> rfl

theorem applyOptions_fst [Process.Runner] (read : options.IsReadFrom value) :
    (applyOptions session value).1 =
      { session with
        workspace := (session.withSettings options.preferences).workspace
        service := session.serviceFor options.engine } := by
  have settled := session.withSettings_eq options.preferences
  unfold applyOptions
  rw [StartOptions.decode_eq_ok_iff.mpr read]
  obtain ⟨preferences, engine⟩ := options
  cases preferences <;> cases engine <;>
    simp only [Session.withSettings, Session.serviceFor] at settled ⊢ <;> rw [settled]

theorem applyOptions_of_unreadable [Process.Runner]
    (unreadable : ¬ ∃ options : StartOptions, options.IsReadFrom value) :
    (applyOptions session value).1 = session := by
  cases decoded : StartOptions.decode value with
  | ok options => exact absurd ⟨options, StartOptions.decode_eq_ok_iff.mp decoded⟩ unreadable
  | error error => simp only [applyOptions, decoded]

theorem isStarted_applyOptions [Process.Runner] (session : Session)
    (read : options.IsReadFrom value) :
    IsStarted options session (applyOptions session value).1 := by
  rw [applyOptions_fst read]
  constructor
  case settles =>
    intro sent given
    rw [given]
    exact isSettled_applySettings session sent
  case keepsWorkspace =>
    intro none
    rw [none]
    rfl
  case replacesEngine =>
    intro config given
    rw [given]
    rfl
  case keepsEngine =>
    intro none
    rw [none]
    rfl
  case rest => rfl

end Options

end Server

namespace Host

open Server

variable {host : Host} {number : Nat} {session : Session}

/-- A service of a host is what a session works with. -/
structure Backs (host : Host) (number : Nat) (session : Session) : Prop where
  service : host.table.service? number = some session.service
  workspace : host.table.workspace? number = some session.workspace

/-- The host after settings that were sent, which are applied through a copy of a service. -/
def applySent (host : Host) (number : Nat) (sent : Json) : Host :=
  host.after [.copy number, .change host.table.count (.settings (Session.unwrapSettings sent))]

/-- The host after the settings among some options. -/
def withSettings (host : Host) (number : Nat) : (settings? : Option Json) → Host
  | some sent => host.applySent number sent
  | none => host

/-- The host after some options, and the service that is used from then on. -/
def takeOptions [Process.Runner] (host : Host) (number : Nat) (options : StartOptions) :
    Host × Nat :=
  let settled := host.withSettings number options.preferences
  match options.engine with
  | some config =>
      (settled.step (.withEngines number (.shared config.engine)), settled.table.count)
  | none => (settled, number)

theorem Backs.applySent (allWired : host.table.AllWired) (backs : host.Backs number session)
    (sent : Json) : (host.applySent number sent).Backs number (session.applySettings sent).1 := by
  obtain ⟨first, known, sameService⟩ := Option.map_eq_some_iff.mp backs.service
  obtain ⟨copied, services, _, _, joined⟩ := allWired.exists_copy known
  have wiredNow : (host.step (.copy number)).table.AllWired := allWired_step allWired _
  have copyKnown : (host.step (.copy number)).table.services[host.table.count]? = some copied :=
    ServiceTable.getElem?_services_count services
  have stillKnown : (host.step (.copy number)).table.services[number]? = some first :=
    (host.grows_step _).getElem?_services known
  have told : (host.step (.copy number)).table.workspace? number = some session.workspace := by
    rw [workspace?_of_known stillKnown, ← backs.workspace, workspace?_of_known known]
    exact ServiceTable.workspaceAt?_copy allWired known
  have unchanged : (host.applySent number sent).table.services[number]? = some first :=
    (grows_after host _).getElem?_services known
  have service : (session.applySettings sent).1.service = session.service :=
    (Session.applySettings_fixed sent).2.2.1
  constructor
  · rw [ServiceTable.service?, unchanged, Option.map_some, sameService, service]
  · -- The copy writes to the store that the handles of the service lead to as well.
    refine (workspace?_step_change wiredNow copyKnown stillKnown joined.symm told _).trans ?_
    simp only [Workspace.changed, Session.applySettings]
    cases session.workspace.applySettings (Session.unwrapSettings sent) <;> rfl

theorem Backs.withEngines (allWired : host.table.AllWired) (backs : host.Backs number session)
    (engines : EngineSet) : (host.step (.withEngines number engines)).Backs host.table.count
      { session with service := session.service.withEngines engines } := by
  obtain ⟨first, known, sameService⟩ := Option.map_eq_some_iff.mp backs.service
  obtain ⟨added, services, otherEngines, _, joined⟩ := allWired.exists_withEngines engines known
  have addedKnown :
      (host.step (.withEngines number engines)).table.services[host.table.count]? = some added :=
    ServiceTable.getElem?_services_count services
  have stillKnown : (host.step (.withEngines number engines)).table.services[number]? = some first :=
    (host.grows_step _).getElem?_services known
  constructor
  · rw [ServiceTable.service?, addedKnown, Option.map_some, otherEngines, sameService]
  · calc (host.step (.withEngines number engines)).table.workspace? host.table.count
      _ = (host.step (.withEngines number engines)).table.workspaceAt? added.own :=
        workspace?_of_known addedKnown
      _ = (host.step (.withEngines number engines)).table.workspaceAt? first.own :=
        joined.workspaceAt?_eq.symm
      _ = (host.step (.withEngines number engines)).table.workspace? number :=
        (workspace?_of_known stillKnown).symm
      _ = some session.workspace := by
        rw [workspace?_step_withEngines allWired known, backs.workspace]

/-- A host that takes over options goes along with the session. -/
theorem Backs.takeOptions [Process.Runner] {value : Json} {options : StartOptions}
    (allWired : host.table.AllWired) (backs : host.Backs number session)
    (read : options.IsReadFrom value) :
    (host.takeOptions number options).1.Backs (host.takeOptions number options).2
      (applyOptions session value).1 := by
  have settled : (host.withSettings number options.preferences).Backs number
      (session.withSettings options.preferences) := by
    cases options.preferences with
    | none => exact backs
    | some sent => exact backs.applySent allWired sent
  have wiredNow : (host.withSettings number options.preferences).table.AllWired := by
    cases options.preferences with
    | none => exact allWired
    | some sent => exact allWired_after allWired _
  rw [applyOptions_fst read]
  rw [session.withSettings_eq] at settled
  unfold Host.takeOptions
  cases options.engine with
  | none => exact settled
  | some config => exact settled.withEngines wiredNow (.shared config.engine)

end Host

namespace Server

/-- Settings and options of a host reach the server wholly or not at all.  The open documents are
scanned again exactly if the settings state options; other settings are dropped.  Options that
cannot be read change nothing; of those that can be read, the settings are taken as if they had been
sent alone, and the engine is taken whatever becomes of the settings.  A host whose service is
behind the session goes along with all of it. -/
theorem settings_wholly_or_not_at_all [Process.Runner] (session : Session) (world : World) :
    (∀ sent, ∃! settings, Holds sent settings) ∧
    (∀ sent settings, Holds sent settings →
      let stepped := session.step world (.settingsChanged sent)
      IsSettled sent session.workspace stepped.1.workspace ∧
      stepped.1 = { session with workspace := stepped.1.workspace } ∧
      (GivesOptions settings → stepped.2.publications = stepped.1.rescans world) ∧
      (¬ GivesOptions settings → stepped = (session, .nothing)) ∧
      ∀ uri document, session.documents.get? uri = some document → session.service.Handles uri →
        ((∃ publication ∈ stepped.2.publications, publication.uri = uri) ↔
          GivesOptions settings)) ∧
    (∀ value, (¬ ∃ options : StartOptions, options.IsReadFrom value) →
      (applyOptions session value).1 = session) ∧
    (∀ value options, StartOptions.IsReadFrom value options →
      IsStarted options session (applyOptions session value).1) ∧
    ∀ before number,
      let host := (Host.start world).after before
      host.Backs number session →
        (∀ sent, (host.applySent number sent).Backs number
          (session.step world (.settingsChanged sent)).1) ∧
        ∀ value options, StartOptions.IsReadFrom value options →
          let taken := host.takeOptions number options
          taken.1.Backs taken.2 (applyOptions session value).1 := by
  refine ⟨?_, ?_, fun _ => applyOptions_of_unreadable, fun _ _ => isStarted_applyOptions session,
    ?_⟩
  · intro sent
    simp only [holds_iff]
    exact ⟨_, rfl, fun _ same => same.symm⟩
  · intro sent settings holds stepped
    have settled : stepped.1 = (session.applySettings sent).1 := Session.step_settingsChanged_fst sent
    refine ⟨?_, ?_, step_settingsChanged_of_givesOptions holds,
      step_settingsChanged_of_not_givesOptions holds, fun _ _ => exists_publication_iff holds⟩
    · rw [settled]
      exact isSettled_applySettings session sent
    · rw [settled]
      exact session.withSettings_eq (some sent)
  · intro before number host backs
    have allWired : host.table.AllWired := Host.allWired_after (Host.allWired_start world) before
    refine ⟨fun sent => ?_, fun value options read => backs.takeOptions allWired read⟩
    rw [Session.step_settingsChanged_fst]
    exact backs.applySent allWired sent

/-- A page is scanned again for a null in the section, and not for options beside a section that is
null.  A malformed engine keeps the settings beside it from being applied, while settings that are
no object do not keep an engine from being used. -/
theorem settings_wholly_or_not_at_all_sample :
    let session : Session :=
      { Session.start .initial echoService with documents := ⟨[(samplePage, ⟨"text", 1⟩)]⟩ }
    let nested (settings : Json) : Json :=
      .object [("jshint.options", .object []), ("markuphint", settings)]
    let malformed : Json := .object [("engine", .object [("args", .ofNat 5)]),
      ("preferences", .object [("jshint.options", .ofNat 1)])]
    let separate : Json := .object [("engine", .object [("command", .string "npx")]),
      ("preferences", .ofNat 5)]
    let host := (Host.start emptyWorld).after [.create echoService .initial]
    (∃ publication ∈ (session.step emptyWorld (.settingsChanged
        (nested (.object [("jshint.options", .null)])))).2.publications,
      publication.uri = samplePage) ∧
    session.step emptyWorld (.settingsChanged (nested .null)) = (session, .nothing) ∧
    (applyOptions session malformed).1 = session ∧
    (applyOptions session separate).1.workspace = session.workspace ∧
    (applyOptions session separate).1.service = ⟨LintService.standardRegistry,
      ⟨EngineConfig.engine ⟨"npx", []⟩, EngineConfig.engine ⟨"npx", []⟩⟩⟩ ∧
    (host.takeOptions 0 ⟨some (.ofNat 5), some ⟨"npx", []⟩⟩).1.Backs 2
      (applyOptions session separate).1 := by
  intro session nested malformed separate host
  obtain ⟨_, bySettings, ofUnreadable, ofRead, onHosts⟩ :=
    settings_wholly_or_not_at_all session emptyWorld
  have holds (settings : Json) : Holds (nested settings) settings := .nested rfl (by rfl)
  have resets : GivesOptions (.object [("jshint.options", .null)]) :=
    ⟨_, rfl, .jsHint, .null, .flat (by rfl)⟩
  have noOptions : ¬ GivesOptions .null := by
    rintro ⟨_, same, _⟩
    cases same
  have handled : session.service.Handles samplePage :=
    ⟨_, _, path?_samplePage, adapterFor?_samplePage⟩
  have unreadable : ¬ ∃ options : StartOptions, options.IsReadFrom malformed := by
    rintro ⟨options, read⟩
    cases StartOptions.decode_eq_ok_iff.mpr read
  have read : StartOptions.IsReadFrom separate ⟨some (.ofNat 5), some ⟨"npx", []⟩⟩ :=
    StartOptions.decode_eq_ok_iff.mp (by rfl)
  have started := ofRead separate _ read
  have notSettings : ¬ GivesOptions (.ofNat 5) := by
    rintro ⟨_, same, _⟩
    cases same
  have backs : host.Backs 0 session := ⟨by rfl, by rfl⟩
  refine ⟨?_, (bySettings _ _ (holds _)).2.2.2.1 noOptions, ofUnreadable _ unreadable, ?_,
    started.replacesEngine _ rfl, (onHosts _ 0 backs).2 _ _ read⟩
  · exact ((bySettings _ _ (holds _)).2.2.2.2 samplePage ⟨"text", 1⟩ (by rfl) handled).mpr resets
  · exact (started.settles _ rfl).drops _ (.whole fun _ same => nomatch same) notSettings

end Server

end MarkupLint

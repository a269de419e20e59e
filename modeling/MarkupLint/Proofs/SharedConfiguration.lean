import MarkupLint.ServiceTable
import MarkupLint.Proofs.Sharing

/-!
# Services with other engines share all configuration

A service reaches its store and its project through handles, and its adapters reach them through
handles and watches of their own.  In every table that can come about the two lead to the same, so a
service resolves its rulesets from the configuration that it tells of.  A service that is made from
another one with other engines has handles that lead where those of the first one do.  Handles stay
where they are, so from then on the two have one configuration, whoever changes it, and a scan through
them differs only in the engine that is asked.
-/

namespace MarkupLint

theorem LintDefaults.view_ofStore (watched store : PreferenceStore) :
    (LintDefaults.ofStore watched).view store = store := rfl

/-- A change of the configuration. -/
inductive ConfigChange where
  | root (root : Option Path)
  | preference (selected : Namespace) (options : Json)
  | settings (settings : Json)

/-- The configuration after a change; a settings document that is rejected changes nothing. -/
def Workspace.changed (workspace : Workspace) : ConfigChange → Workspace
  | .root root => workspace.setRoot root
  | .preference selected options => workspace.setPreference selected options
  | .settings settings =>
      match workspace.applySettings settings with
      | .ok (applied, _) => applied
      | .error _ => workspace

/-- On one workspace, services with different engines ask for the same, if they ask at all. -/
theorem LintService.scan_withEngines (service : LintService) (engines : EngineSet) (world : World)
    (workspace : Workspace) (text : String) (path : Path) :
    (∃ scan : Scan, scan.run.calls = [] ∧ service.scan world workspace text path = scan ∧
      (service.withEngines engines).scan world workspace text path = scan) ∨
    ∃ adapter ruleset,
      service.scan world workspace text path =
        ⟨some adapter, ⟨[⟨text, ruleset⟩], Adapter.resultOfVerdict
          ((adapter.engine service.engines).verify world text ruleset)⟩⟩ ∧
      (service.withEngines engines).scan world workspace text path =
        ⟨some adapter, ⟨[⟨text, ruleset⟩], Adapter.resultOfVerdict
          ((adapter.engine engines).verify world text ruleset)⟩⟩ := by
  have sameAdapter : (service.withEngines engines).adapterFor? path = service.adapterFor? path := rfl
  unfold scan
  rw [sameAdapter]
  cases service.adapterFor? path with
  | none => exact .inl ⟨_, rfl, rfl, rfl⟩
  | some adapter =>
      simp only [Adapter.scan]
      cases adapter.resolveRuleset world.files workspace with
      | error error => exact .inl ⟨_, rfl, rfl, rfl⟩
      | ok ruleset => exact .inr ⟨adapter, ruleset, rfl, rfl⟩

namespace ServiceTable

variable {table later final : ServiceTable} {handles first second third : Handles}
  {wired added : WiredService} {number : Nat} {workspace : Workspace}

/-- Change the configuration through a service. -/
def change (table : ServiceTable) (number : Nat) : ConfigChange → ServiceTable
  | .root root => table.setRoot number root
  | .preference selected options => table.setPreference number selected options
  | .settings settings => table.applySettings number settings

section Growth

/-- No service and no handle was taken away. -/
structure Grows (table later : ServiceTable) : Prop where
  services : table.services <+: later.services
  stores : table.stores.Grows later.stores
  roots : table.resolvers.roots.Grows later.resolvers.roots

theorem Grows.refl (table : ServiceTable) : table.Grows table :=
  ⟨List.prefix_refl _, .refl _, .refl _⟩

theorem Grows.trans (grows : table.Grows later) (next : later.Grows final) : table.Grows final :=
  ⟨grows.services.trans next.services, grows.stores.trans next.stores,
    grows.roots.trans next.roots⟩

theorem Grows.getElem?_services (grows : table.Grows later)
    (known : table.services[number]? = some wired) : later.services[number]? = some wired := by
  obtain ⟨bound, rfl⟩ := List.getElem?_eq_some_iff.mp known
  exact List.prefix_iff_getElem?.mp grows.services number bound

theorem grows_shareHandles (table : ServiceTable) (handles : Handles) :
    table.Grows (table.shareHandles handles).1 :=
  ⟨List.prefix_refl _, Shared.grows_share .., Shared.grows_share ..⟩

theorem grows_createHandles (table : ServiceTable) (workspace : Workspace) :
    table.Grows (table.createHandles workspace).1 :=
  ⟨List.prefix_refl _, Shared.grows_create .., Shared.grows_create ..⟩

theorem grows_assemble (table : ServiceTable) (service : LintService) (own : Handles) :
    table.Grows (table.assemble service own) := by
  unfold assemble
  split
  · have shared := table.grows_shareHandles own
    exact ⟨List.prefix_append .., shared.stores, shared.roots⟩
  · exact .refl table

theorem grows_create (table : ServiceTable) (service : LintService) (workspace : Workspace) :
    table.Grows (table.create service workspace) :=
  (table.grows_createHandles workspace).trans (grows_assemble ..)

theorem grows_copy (table : ServiceTable) (number : Nat) : table.Grows (table.copy number) := by
  unfold copy
  split
  · exact .refl table
  · next wired _ =>
      have shared := table.grows_shareHandles wired.own
      exact ⟨List.prefix_append .., shared.stores, shared.roots⟩

theorem grows_withEngines (table : ServiceTable) (number : Nat) (engines : EngineSet) :
    table.Grows (table.withEngines number engines) := by
  unfold withEngines
  split
  · exact .refl table
  · exact (grows_shareHandles ..).trans (grows_assemble ..)

theorem grows_modifyPreferences (table : ServiceTable) (number : Nat)
    (change : PreferenceStore → PreferenceStore) :
    table.Grows (table.modifyPreferences number change) := by
  unfold modifyPreferences
  split
  · exact .refl table
  · exact ⟨List.prefix_refl _, Shared.grows_modify .., .refl _⟩

theorem grows_change (table : ServiceTable) (number : Nat) (change : ConfigChange) :
    table.Grows (table.change number change) := by
  cases change with
  | root root =>
      simp only [ServiceTable.change, setRoot]
      split
      · exact .refl table
      · exact ⟨List.prefix_refl _, .refl _, Shared.grows_modify ..⟩
  | preference selected options => exact grows_modifyPreferences ..
  | settings settings => exact grows_modifyPreferences ..

end Growth

section Wiring

/-- Handles lead to a store and to a project. -/
structure Leads (table : ServiceTable) (handles : Handles) : Prop where
  store : (table.stores.get? handles.store).isSome
  project : (table.resolvers.roots.get? handles.resolver).isSome

/-- Handles lead to the same store and to the same project. -/
structure Joined (table : ServiceTable) (first second : Handles) : Prop where
  stores : table.stores.Together first.store second.store
  projects : table.resolvers.roots.Together first.resolver second.resolver

theorem Leads.mono (leads : table.Leads handles) (grows : table.Grows later) :
    later.Leads handles :=
  ⟨Shared.isSome_get?_mono leads.store grows.stores,
    Shared.isSome_get?_mono leads.project grows.roots⟩

theorem Leads.exists_workspaceAt? (leads : table.Leads handles) :
    ∃ workspace, table.workspaceAt? handles = some workspace := by
  obtain ⟨preferences, found⟩ := Option.isSome_iff_exists.mp leads.store
  exact ⟨_, by rw [workspaceAt?, found]; rfl⟩

theorem Leads.joined_self (leads : table.Leads handles) : table.Joined handles handles :=
  ⟨Shared.together_self leads.store, Shared.together_self leads.project⟩

theorem Joined.symm (joined : table.Joined first second) : table.Joined second first :=
  ⟨joined.stores.symm, joined.projects.symm⟩

theorem Joined.trans (joined : table.Joined first second) (next : table.Joined second third) :
    table.Joined first third :=
  ⟨joined.stores.trans next.stores, joined.projects.trans next.projects⟩

theorem Joined.mono (joined : table.Joined first second) (grows : table.Grows later) :
    later.Joined first second :=
  ⟨joined.stores.mono grows.stores, joined.projects.mono grows.roots⟩

theorem Joined.workspaceAt?_eq (joined : table.Joined first second) :
    table.workspaceAt? first = table.workspaceAt? second := by
  rw [workspaceAt?, workspaceAt?, joined.stores.get?_eq, Resolvers.root?, Resolvers.root?,
    joined.projects.get?_eq]

theorem Joined.leads (joined : table.Joined first second) (leads : table.Leads first) :
    table.Leads second :=
  ⟨joined.stores.get?_eq ▸ leads.store, joined.projects.get?_eq ▸ leads.project⟩

theorem Leads.joined_shareHandles (leads : table.Leads handles) :
    (table.shareHandles handles).1.Joined handles (table.shareHandles handles).2 :=
  ⟨Shared.together_share leads.store, Shared.together_share leads.project⟩

/-- A service and its adapters have the same configuration, which the adapters see as it is. -/
structure IsWired (table : ServiceTable) (wired : WiredService) : Prop where
  leads : table.Leads wired.own
  adapters : table.Joined wired.own wired.adapters
  watches : ∀ store, wired.watches.view store = store

theorem IsWired.mono (isWired : table.IsWired wired) (grows : table.Grows later) :
    later.IsWired wired :=
  ⟨isWired.leads.mono grows, isWired.adapters.mono grows, isWired.watches⟩

theorem IsWired.seenWorkspace?_eq (isWired : table.IsWired wired) :
    table.seenWorkspace? wired = table.workspaceAt? wired.own := by
  rw [seenWorkspace?, isWired.adapters.workspaceAt?_eq]
  cases table.workspaceAt? wired.adapters with
  | none => rfl
  | some workspace => simp [isWired.watches]

/-- All services have the configuration of their adapters. -/
def AllWired (table : ServiceTable) : Prop := ∀ wired ∈ table.services, table.IsWired wired

theorem AllWired.append (allWired : table.AllWired) (grows : table.Grows later)
    (services : later.services = table.services ++ [added]) (new : later.IsWired added) :
    later.AllWired := by
  intro wired inside
  rw [services] at inside
  rcases List.mem_append.mp inside with already | here
  · exact (allWired wired already).mono grows
  · obtain rfl := List.mem_singleton.mp here
    exact new

theorem AllWired.of_same (allWired : table.AllWired) (grows : table.Grows later)
    (services : later.services = table.services) : later.AllWired := fun wired inside =>
  (allWired wired (services ▸ inside)).mono grows

/-- A service that is assembled with handles that lead somewhere is wired. -/
theorem Leads.exists_assemble (leads : table.Leads handles) (service : LintService) :
    ∃ added, (table.assemble service handles).services = table.services ++ [added] ∧
      added.service = service ∧ added.own = handles ∧
      (table.assemble service handles).IsWired added := by
  have grows := table.grows_assemble service handles
  obtain ⟨preferences, found⟩ := Option.isSome_iff_exists.mp leads.store
  obtain ⟨root, opened⟩ := Option.isSome_iff_exists.mp leads.project
  have joined := leads.joined_shareHandles
  unfold assemble at grows ⊢
  rw [found, opened] at grows ⊢
  exact ⟨_, rfl, rfl, rfl, leads.mono grows, ⟨joined.stores, joined.projects⟩,
    LintDefaults.view_ofStore preferences⟩

theorem assemble_eq_self (astray : ¬ table.Leads handles) (service : LintService) :
    table.assemble service handles = table := by
  unfold assemble
  split
  · next found opened =>
      exact absurd ⟨Option.isSome_of_eq_some found, Option.isSome_of_eq_some opened⟩ astray
  · rfl

theorem AllWired.assemble (allWired : table.AllWired) (service : LintService)
    (handles : Handles) : (table.assemble service handles).AllWired := by
  by_cases leads : table.Leads handles
  · obtain ⟨added, services, _, _, isWired⟩ := leads.exists_assemble service
    exact allWired.append (table.grows_assemble service handles) services isWired
  · rw [assemble_eq_self leads]
    exact allWired

theorem AllWired.create (allWired : table.AllWired) (service : LintService)
    (workspace : Workspace) : (table.create service workspace).AllWired :=
  AllWired.assemble (allWired.of_same (table.grows_createHandles workspace) rfl) service _

theorem getElem?_services_count (services : later.services = table.services ++ [added]) :
    later.services[table.count]? = some added := by
  rw [services, count, List.getElem?_append_right (Nat.le_refl _), Nat.sub_self]
  rfl

/-- A copy of a service leads where that one does. -/
theorem AllWired.exists_copy (allWired : table.AllWired)
    (known : table.services[number]? = some wired) :
    ∃ copied, (table.copy number).services = table.services ++ [copied] ∧
      copied.service = wired.service ∧ (table.copy number).IsWired copied ∧
      (table.copy number).Joined wired.own copied.own := by
  have grows := table.grows_copy number
  have isWired := allWired wired (List.mem_of_getElem? known)
  have shared := isWired.leads.joined_shareHandles
  have services : (table.copy number).services =
      table.services ++ [{ wired with own := (table.shareHandles wired.own).2 }] := by
    rw [ServiceTable.copy, known]
    rfl
  have joined : (table.copy number).Joined wired.own (table.shareHandles wired.own).2 := by
    rw [ServiceTable.copy, known]
    exact ⟨shared.stores, shared.projects⟩
  -- The copy has handles of its own but keeps those of the adapters.
  have adapters := joined.symm.trans (isWired.adapters.mono grows)
  exact ⟨_, services, rfl, ⟨joined.leads (isWired.leads.mono grows), adapters, isWired.watches⟩,
    joined⟩

theorem AllWired.copy (allWired : table.AllWired) (number : Nat) :
    (table.copy number).AllWired := by
  cases known : table.services[number]? with
  | none =>
      rw [ServiceTable.copy, known]
      exact allWired
  | some wired =>
      obtain ⟨copied, services, _, isWired, _⟩ := allWired.exists_copy known
      exact allWired.append (grows_copy ..) services isWired

/-- A service that is made from another one with other engines leads where that one does. -/
theorem AllWired.exists_withEngines (allWired : table.AllWired) (engines : EngineSet)
    (known : table.services[number]? = some wired) :
    ∃ added, (table.withEngines number engines).services = table.services ++ [added] ∧
      added.service = wired.service.withEngines engines ∧
      (table.withEngines number engines).IsWired added ∧
      (table.withEngines number engines).Joined wired.own added.own := by
  have leads := (allWired wired (List.mem_of_getElem? known)).leads
  have joined := leads.joined_shareHandles
  have shared := joined.leads (leads.mono (table.grows_shareHandles wired.own))
  obtain ⟨added, services, service, own, isWired⟩ :=
    shared.exists_assemble (wired.service.withEngines engines)
  unfold withEngines
  rw [known]
  exact ⟨added, services, service, isWired, own ▸ joined.mono (grows_assemble ..)⟩

theorem AllWired.withEngines (allWired : table.AllWired) (number : Nat) (engines : EngineSet) :
    (table.withEngines number engines).AllWired := by
  cases known : table.services[number]? with
  | none =>
      rw [ServiceTable.withEngines, known]
      exact allWired
  | some wired =>
      obtain ⟨added, services, _, isWired, _⟩ := allWired.exists_withEngines engines known
      exact allWired.append (grows_withEngines ..) services isWired

theorem services_modifyPreferences (table : ServiceTable) (number : Nat)
    (change : PreferenceStore → PreferenceStore) :
    (table.modifyPreferences number change).services = table.services := by
  unfold modifyPreferences
  split <;> rfl

theorem services_change (table : ServiceTable) (number : Nat) (change : ConfigChange) :
    (table.change number change).services = table.services := by
  cases change with
  | root root =>
      simp only [ServiceTable.change, setRoot]
      split <;> rfl
  | preference selected options => exact services_modifyPreferences ..
  | settings settings => exact services_modifyPreferences ..

end Wiring

section Configuration

theorem workspaceAt?_modifyPreferences (known : table.services[number]? = some wired)
    (joined : table.Joined wired.own handles)
    (told : table.workspaceAt? handles = some workspace)
    (change : PreferenceStore → PreferenceStore) :
    (table.modifyPreferences number change).workspaceAt? handles =
      some { workspace with preferences := change workspace.preferences } := by
  obtain ⟨preferences, found, same⟩ := Option.bind_eq_some_iff.mp told
  cases same
  simp only [modifyPreferences, known]
  rw [workspaceAt?, Shared.get?_modify_of_together joined.stores, found]
  rfl

/-- What is changed through a service is changed for all handles that lead where its own do. -/
theorem workspaceAt?_change (known : table.services[number]? = some wired)
    (joined : table.Joined wired.own handles) (leads : table.Leads handles)
    (told : table.workspaceAt? handles = some workspace) (change : ConfigChange) :
    (table.change number change).workspaceAt? handles = some (workspace.changed change) := by
  cases change with
  | root root =>
      obtain ⟨preferences, found, same⟩ := Option.bind_eq_some_iff.mp told
      cases same
      have opened := Shared.get?_put_of_together joined.projects leads.project root
      simp only [ServiceTable.change, setRoot, known, workspaceAt?, found, Resolvers.setRoot,
        Resolvers.root?, opened]
      rfl
  | preference selected options => exact workspaceAt?_modifyPreferences known joined told _
  | settings settings =>
      refine (workspaceAt?_modifyPreferences known joined told _).trans ?_
      simp only [Workspace.changed, Workspace.applySettings]
      cases workspace.preferences.apply settings <;> rfl

theorem Leads.workspaceAt?_shareHandles (leads : table.Leads first) (other : Handles) :
    (table.shareHandles other).1.workspaceAt? first = table.workspaceAt? first := by
  obtain ⟨preferences, found⟩ := Option.isSome_iff_exists.mp leads.store
  obtain ⟨root, opened⟩ := Option.isSome_iff_exists.mp leads.project
  simp only [shareHandles, workspaceAt?, Resolvers.root?, Resolvers.share,
    Shared.get?_share_of_some found, Shared.get?_share_of_some opened, found, opened]

theorem Leads.workspaceAt?_assemble (leads : table.Leads handles) (service : LintService)
    (own : Handles) : (table.assemble service own).workspaceAt? handles =
      table.workspaceAt? handles := by
  unfold assemble
  split
  · exact leads.workspaceAt?_shareHandles own
  · rfl

theorem workspaceAt?_copy (allWired : table.AllWired)
    (known : table.services[number]? = some wired) :
    (table.copy number).workspaceAt? wired.own = table.workspaceAt? wired.own := by
  have leads := (allWired wired (List.mem_of_getElem? known)).leads
  simp only [copy, known]
  exact leads.workspaceAt?_shareHandles wired.own

theorem workspaceAt?_withEngines (allWired : table.AllWired)
    (known : table.services[number]? = some wired) (engines : EngineSet) :
    (table.withEngines number engines).workspaceAt? wired.own = table.workspaceAt? wired.own := by
  have leads := (allWired wired (List.mem_of_getElem? known)).leads
  have shared := leads.mono (table.grows_shareHandles wired.own)
  simp only [withEngines, known]
  exact (shared.workspaceAt?_assemble ..).trans (leads.workspaceAt?_shareHandles wired.own)

end Configuration

end ServiceTable

end MarkupLint

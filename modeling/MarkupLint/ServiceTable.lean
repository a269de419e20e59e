import MarkupLint.Preferences.Observer
import MarkupLint.Resolver
import MarkupLint.Service
/-!
# Services that share their configuration

Services by number. A service reaches its configuration through handles, one of a store of
preferences and one of a resolver, and its adapters through handles and watches of their own. A
service that is made from another one, with the same or other engines, gets handles of the same
store and the same project.
-/

namespace MarkupLint

/-- The holder through which preferences are reached, and the resolver that knows the project. -/
structure Handles where
  store : Nat
  resolver : Nat
deriving DecidableEq, Repr

/-- A service with its own handles, and with the handles and the watches of its adapters. -/
structure WiredService where
  service : LintService
  own : Handles
  adapters : Handles
  watches : LintDefaults

/-- Services by number, the stores that they hold, and all resolvers. -/
structure ServiceTable where
  stores : Shared PreferenceStore
  resolvers : Resolvers
  services : List WiredService

namespace ServiceTable

/-- No services. -/
def empty : ServiceTable := ⟨.empty, ⟨.empty⟩, []⟩

/-- How many services there are. The next one gets this number. -/
def count (table : ServiceTable) : Nat := table.services.length

/-- The service with a number. -/
def service? (table : ServiceTable) (number : Nat) : Option LintService :=
  table.services[number]?.map WiredService.service

/-- The preferences and the project that handles lead to. -/
def workspaceAt? (table : ServiceTable) (handles : Handles) : Option Workspace := do
  let preferences ← table.stores.get? handles.store
  return ⟨preferences, table.resolvers.root? handles.resolver⟩

/-- The preferences and the project that a service tells of. -/
def workspace? (table : ServiceTable) (number : Nat) : Option Workspace := do
  let wired ← table.services[number]?
  table.workspaceAt? wired.own

/-- The preferences and the project that the adapters of a service see. -/
def seenWorkspace? (table : ServiceTable) (wired : WiredService) : Option Workspace := do
  let workspace ← table.workspaceAt? wired.adapters
  return { workspace with preferences := wired.watches.view workspace.preferences }

/-- Add handles that lead to the same as others. -/
def shareHandles (table : ServiceTable) (handles : Handles) : ServiceTable × Handles :=
  ({ table with
      stores := table.stores.share handles.store
      resolvers := table.resolvers.share handles.resolver },
    ⟨table.stores.count, table.resolvers.count⟩)

/-- Add handles of preferences and a project of their own. -/
def createHandles (table : ServiceTable) (workspace : Workspace) : ServiceTable × Handles :=
  ({ table with
      stores := table.stores.create workspace.preferences
      resolvers := table.resolvers.create workspace.root },
    ⟨table.stores.count, table.resolvers.count⟩)

/-- Add a service with given handles, if there is something that they lead to. Its adapters get
handles of their own and watch the store. -/
def assemble (table : ServiceTable) (service : LintService) (own : Handles) : ServiceTable :=
  match table.stores.get? own.store, table.resolvers.roots.get? own.resolver with
  | some preferences, some _ =>
      let (table, adapters) := table.shareHandles own
      { table with
        services := table.services ++ [⟨service, own, adapters, .ofStore preferences⟩] }
  | _, _ => table

/-- Add a service with preferences and a project of its own. -/
def create (table : ServiceTable) (service : LintService) (workspace : Workspace) :
    ServiceTable :=
  let (table, own) := table.createHandles workspace
  table.assemble service own

/-- Add a service like another one, with the same adapters. -/
def copy (table : ServiceTable) (number : Nat) : ServiceTable :=
  match table.services[number]? with
  | none => table
  | some wired =>
      let (table, own) := table.shareHandles wired.own
      { table with services := table.services ++ [{ wired with own }] }

/-- Add a service like another one with new adapters, which ask other engines. -/
def withEngines (table : ServiceTable) (number : Nat) (engines : EngineSet) : ServiceTable :=
  match table.services[number]? with
  | none => table
  | some wired =>
      let (table, own) := table.shareHandles wired.own
      table.assemble (wired.service.withEngines engines) own

/-- Open another project, or close it, through a service. -/
def setRoot (table : ServiceTable) (number : Nat) (root : Option Path) : ServiceTable :=
  match table.services[number]? with
  | none => table
  | some wired => { table with resolvers := table.resolvers.setRoot wired.own.resolver root }

/-- Change the preferences through a service. -/
def modifyPreferences (table : ServiceTable) (number : Nat)
    (change : PreferenceStore → PreferenceStore) : ServiceTable :=
  match table.services[number]? with
  | none => table
  | some wired => { table with stores := table.stores.modify wired.own.store change }

/-- Replace the options of a namespace through a service. -/
def setPreference (table : ServiceTable) (number : Nat) (selected : Namespace) (options : Json) :
    ServiceTable :=
  table.modifyPreferences number (·.set selected options)

/-- Apply a settings document through a service; a document that is rejected changes nothing. -/
def applySettings (table : ServiceTable) (number : Nat) (settings : Json) : ServiceTable :=
  table.modifyPreferences number fun preferences =>
    match preferences.apply settings with
    | .ok (applied, _) => applied
    | .error _ => preferences

/-- The ruleset that a scan of a language through a service would use now. -/
def resolveRuleset? (table : ServiceTable) (number : Nat) (files : FileTree)
    (languageId : String) : Option (Except LintError Json) := do
  let wired ← table.services[number]?
  let workspace ← table.seenWorkspace? wired
  return wired.service.resolveRuleset files workspace languageId

/-- Scan a text at a path through a service. -/
def scan? (table : ServiceTable) (number : Nat) (world : World) (text : String) (path : Path) :
    Option LintService.Scan := do
  let wired ← table.services[number]?
  let workspace ← table.seenWorkspace? wired
  return wired.service.scan world workspace text path

end ServiceTable

end MarkupLint

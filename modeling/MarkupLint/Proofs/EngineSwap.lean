import MarkupLint.Proofs.SharedConfiguration

/-!
# Two services in step

Services are made, copied and given other engines, configuration is changed through any of them, and
files change in between.  From the moment at which a service is made from another one with other
engines, the two stay in step: at every later moment they tell of the same project and preferences
and resolve the same rulesets, and their scans differ only in the engine that is asked.

A run never takes a handle away, so it is enough that the handles of the two lead to the same place
when the second service is made.
-/

namespace MarkupLint

/-- The services of a host and the world that they look at. -/
structure Host where
  table : ServiceTable
  world : World

namespace Host

/-- What a host can do, and what can happen to its files. -/
inductive Use where
  | create (service : LintService) (workspace : Workspace)
  | assemble (service : LintService) (own : Handles)
  | copy (number : Nat)
  | withEngines (number : Nat) (engines : EngineSet)
  | change (number : Nat) (change : ConfigChange)
  | edit (change : FileTree → FileTree)

def step (host : Host) : Use → Host
  | .create service workspace => { host with table := host.table.create service workspace }
  | .assemble service own => { host with table := host.table.assemble service own }
  | .copy number => { host with table := host.table.copy number }
  | .withEngines number engines => { host with table := host.table.withEngines number engines }
  | .change number change => { host with table := host.table.change number change }
  | .edit change => { host with world := { host.world with files := change host.world.files } }

def after (host : Host) (uses : List Use) : Host := uses.foldl step host

/-- A host without services. -/
def start (world : World) : Host := ⟨.empty, world⟩

variable {host : Host} {uses : List Use} {number other : Nat} {first second : WiredService}
  {engines : EngineSet}

theorem grows_step (host : Host) (use : Use) : host.table.Grows (host.step use).table := by
  cases use with
  | create service workspace => exact ServiceTable.grows_create ..
  | assemble service own => exact ServiceTable.grows_assemble ..
  | copy number => exact ServiceTable.grows_copy ..
  | withEngines number engines => exact ServiceTable.grows_withEngines ..
  | change number change => exact ServiceTable.grows_change ..
  | edit change => exact .refl _

theorem allWired_step (allWired : host.table.AllWired) (use : Use) :
    (host.step use).table.AllWired := by
  cases use with
  | create service workspace => exact allWired.create service workspace
  | assemble service own => exact allWired.assemble service own
  | copy number => exact allWired.copy number
  | withEngines number engines => exact allWired.withEngines number engines
  | change number change =>
      exact allWired.of_same (ServiceTable.grows_change ..) (ServiceTable.services_change ..)
  | edit change => exact allWired

theorem grows_after (host : Host) (uses : List Use) :
    host.table.Grows (host.after uses).table := by
  induction uses generalizing host with
  | nil => exact .refl _
  | cons use later ih => exact (host.grows_step use).trans (ih (host.step use))

theorem allWired_after (allWired : host.table.AllWired) (uses : List Use) :
    (host.after uses).table.AllWired := by
  induction uses generalizing host with
  | nil => exact allWired
  | cons use later ih => exact ih (allWired_step allWired use)

theorem allWired_start (world : World) : (start world).table.AllWired := by
  intro wired inside
  cases inside

/-- Two services have one configuration, and scans through them differ in nothing but the engine
that is asked. -/
structure InStep (host : Host) (number other : Nat) (service : LintService)
    (engines : EngineSet) : Prop where
  /-- Both tell of the same project and of the same preferences. -/
  tells : ∃ workspace, host.table.workspace? number = some workspace ∧
    host.table.workspace? other = some workspace
  /-- For every language both resolve the same ruleset or fail with the same error. -/
  resolves : ∀ languageId, ∃ outcome,
    host.table.resolveRuleset? number host.world.files languageId = some outcome ∧
      host.table.resolveRuleset? other host.world.files languageId = some outcome
  /-- A scan asks no engine and is the same through both, or it asks each one's engine for the
  same. -/
  scans : ∀ text path,
    (∃ scan : LintService.Scan, scan.run.calls = [] ∧
      host.table.scan? number host.world text path = some scan ∧
      host.table.scan? other host.world text path = some scan) ∨
    ∃ adapter ruleset,
      host.table.scan? number host.world text path =
        some ⟨some adapter, ⟨[⟨text, ruleset⟩], Adapter.resultOfVerdict
          ((adapter.engine service.engines).verify host.world text ruleset)⟩⟩ ∧
      host.table.scan? other host.world text path =
        some ⟨some adapter, ⟨[⟨text, ruleset⟩], Adapter.resultOfVerdict
          ((adapter.engine engines).verify host.world text ruleset)⟩⟩
  /-- What is changed through one of them is changed for both. -/
  changes : ∀ writer ∈ [number, other], ∀ change workspace,
    host.table.workspace? number = some workspace →
      (host.step (.change writer change)).table.workspace? number =
          some (workspace.changed change) ∧
        (host.step (.change writer change)).table.workspace? other =
          some (workspace.changed change)

theorem workspace?_of_known (known : host.table.services[number]? = some first) :
    host.table.workspace? number = host.table.workspaceAt? first.own := by
  rw [ServiceTable.workspace?, known]
  rfl

theorem workspace?_step_change {writer : Nat} {wired : WiredService} {workspace : Workspace}
    (allWired : host.table.AllWired) (writerKnown : host.table.services[writer]? = some wired)
    (known : host.table.services[number]? = some first)
    (joined : host.table.Joined wired.own first.own)
    (told : host.table.workspace? number = some workspace) (change : ConfigChange) :
    (host.step (.change writer change)).table.workspace? number =
      some (workspace.changed change) := by
  have leads := (allWired first (List.mem_of_getElem? known)).leads
  have stillKnown : (host.step (.change writer change)).table.services[number]? = some first :=
    (host.grows_step (.change writer change)).getElem?_services known
  rw [workspace?_of_known known] at told
  rw [workspace?_of_known stillKnown]
  exact ServiceTable.workspaceAt?_change writerKnown joined leads told change

/-- Services whose handles lead to the same place are in step. -/
theorem inStep_of_joined (allWired : host.table.AllWired)
    (firstKnown : host.table.services[number]? = some first)
    (secondKnown : host.table.services[other]? = some second)
    (joined : host.table.Joined first.own second.own)
    (swapped : second.service = first.service.withEngines engines) :
    host.InStep number other first.service engines := by
  have firstWired := allWired first (List.mem_of_getElem? firstKnown)
  have secondWired := allWired second (List.mem_of_getElem? secondKnown)
  obtain ⟨workspace, told⟩ := firstWired.leads.exists_workspaceAt?
  have otherTold : host.table.workspaceAt? second.own = some workspace :=
    joined.workspaceAt?_eq ▸ told
  have seen : host.table.seenWorkspace? first = some workspace :=
    firstWired.seenWorkspace?_eq.trans told
  have otherSeen : host.table.seenWorkspace? second = some workspace :=
    secondWired.seenWorkspace?_eq.trans otherTold
  have tells : host.table.workspace? number = some workspace :=
    (workspace?_of_known firstKnown).trans told
  have otherTells : host.table.workspace? other = some workspace :=
    (workspace?_of_known secondKnown).trans otherTold
  refine ⟨⟨workspace, tells, otherTells⟩, ?_, ?_, ?_⟩
  · intro languageId
    simp only [ServiceTable.resolveRuleset?, firstKnown, secondKnown, Option.bind_eq_bind,
      Option.bind_some, seen, otherSeen, swapped]
    exact ⟨_, rfl, rfl⟩
  · intro text path
    simp only [ServiceTable.scan?, firstKnown, secondKnown, Option.bind_eq_bind,
      Option.bind_some, seen, otherSeen, swapped]
    rcases first.service.scan_withEngines engines host.world workspace text path with
      ⟨scan, unasked, here, there⟩ | ⟨adapter, ruleset, here, there⟩
    · exact .inl ⟨scan, unasked, congrArg some here, congrArg some there⟩
    · exact .inr ⟨adapter, ruleset, congrArg some here, congrArg some there⟩
  · -- Whichever of the two writes, its handles lead to what both of them see.
    intro writer inside change now nowTold
    obtain rfl : workspace = now := Option.some.inj (tells.symm.trans nowTold)
    rcases List.mem_cons.mp inside with rfl | inside
    · exact ⟨workspace?_step_change allWired firstKnown firstKnown firstWired.leads.joined_self
          tells change,
        workspace?_step_change allWired firstKnown secondKnown joined otherTells change⟩
    · obtain rfl := List.mem_singleton.mp inside
      exact ⟨workspace?_step_change allWired secondKnown firstKnown joined.symm tells change,
        workspace?_step_change allWired secondKnown secondKnown secondWired.leads.joined_self
          otherTells change⟩

/-- Giving a service other engines changes nothing about its configuration. -/
theorem workspace?_step_withEngines (allWired : host.table.AllWired)
    (known : host.table.services[number]? = some first) (engines : EngineSet) :
    (host.step (.withEngines number engines)).table.workspace? number =
      host.table.workspace? number := by
  have stillKnown : (host.step (.withEngines number engines)).table.services[number]? = some first :=
    (host.grows_step (.withEngines number engines)).getElem?_services known
  rw [workspace?_of_known known, workspace?_of_known stillKnown]
  exact ServiceTable.workspaceAt?_withEngines allWired known engines

/-- A service that is made from another one with other engines has the configuration of that one,
and the two stay in step whatever happens later, be it through these two, through copies of them or
through other services. -/
theorem withEngines_stays_in_step (world : World) (before later : List Use) (number : Nat)
    (engines : EngineSet) {service : LintService}
    (known : ((start world).after before).table.service? number = some service) :
    let host := (start world).after before
    let swapped := host.step (.withEngines number engines)
    swapped.table.service? host.table.count = some (service.withEngines engines) ∧
      swapped.table.workspace? number = host.table.workspace? number ∧
      (swapped.after later).InStep number host.table.count service engines := by
  intro host swapped
  obtain ⟨first, firstKnown, rfl⟩ := Option.map_eq_some_iff.mp known
  have allWired : host.table.AllWired := allWired_after (allWired_start world) before
  obtain ⟨second, services, otherEngines, _, joined⟩ :=
    allWired.exists_withEngines engines firstKnown
  have secondKnown : swapped.table.services[host.table.count]? = some second := by
    simp [swapped, step, services, ServiceTable.count]
  -- The two are joined at the swap, and what comes later cannot part them.
  have grows : swapped.table.Grows (swapped.after later).table := swapped.grows_after later
  have wiredLater : (swapped.after later).table.AllWired :=
    allWired_after (allWired_step allWired _) later
  have firstLater : (swapped.after later).table.services[number]? = some first :=
    grows.getElem?_services ((host.grows_step _).getElem?_services firstKnown)
  refine ⟨?_, workspace?_step_withEngines allWired firstKnown engines,
    inStep_of_joined wiredLater firstLater (grows.getElem?_services secondKnown)
      (joined.mono grows) otherEngines⟩
  rw [ServiceTable.service?, secondKnown, Option.map_some, otherEngines]

/-- Two services stay in step while a root is set through the first of them, options through the
second one and settings through a copy of the second one. -/
theorem withEngines_stays_in_step_writes :
    let engine (name : String) : Engine := .ofFunction name fun _ _ => .findings []
    let service := LintService.standard (.shared (engine "first"))
    let host := (start ⟨.empty (Path.ofString "/"), []⟩).after [.create service .initial]
    let swapped := host.step (.withEngines 0 (.shared (engine "second")))
    let later : List Use :=
      [.change 0 (.root (some (Path.ofString "/p"))),
        .change 1 (.preference .htmlHint (.object [("tag-pair", .bool true)])), .copy 1,
        .change 2 (.settings (.object [("jshint.options", .object [])])),
        .edit fun files => files.put (Path.ofString "/p/.jshintrc") (.file [] false)]
    host.table.service? 0 = some service ∧ host.table.count = 1 ∧
      (swapped.after later).InStep 0 1 service (.shared (engine "second")) := by
  intro engine service host swapped later
  have known : host.table.service? 0 = some service := rfl
  exact ⟨known, rfl, (withEngines_stays_in_step _ _ later 0 _ known).2.2⟩

end Host

end MarkupLint

import MarkupLint.Proofs.Adapter
import MarkupLint.Proofs.Path
import MarkupLint.Proofs.Server.Shown
import Mathlib.Data.List.Pairwise
import Mathlib.Tactic.ByContra

/-!
# What is shown is up to date

Between two steps of a session the configuration files of the project may change, and the host tells
of it some time later.  Once it has told of all changes, an open document is in one of two states:
a check of its version still waits, or what is shown of it is what a scan of its stored text finds
now.  Every step preserves this, whatever the order in which waits end.  When no check waits, only
the second state is left.
-/

namespace MarkupLint.Server

/-- The version that an event gives to a document. -/
def Event.gives? : Event → Option (Uri × Int)
  | .opened uri document => some (uri, document.version)
  | .changed uri version _ => some (uri, version)
  | _ => none

/-- Whether an event tells of a change of a configuration file of the project. -/
def Event.Announces (root : Option Path) (file : RcFile) : Event → Prop
  | .filesChanged uris => ∃ uri ∈ uris, ∃ path folder, uri.path? = some path ∧
      root = some folder ∧ path.same (folder.join (Path.ofString file.fileName))
  | _ => False

/-- Whether an event opens a document that is not open, or changes, saves or closes one that is; a
text that comes with a save is the stored one. -/
def Event.IsProper (documents : Documents) : Event → Prop
  | .opened uri _ => documents.get? uri = none
  | .changed uri _ _ => (documents.get? uri).isSome
  | .saved uri text => ∃ document, documents.get? uri = some document ∧
      ∀ stated, text = some stated → stated = document.text
  | .closed uri => (documents.get? uri).isSome
  | _ => True

/-- Whether all configuration files of a project have the same to say in two worlds. -/
def World.Alike (root : Option Path) (first second : World) : Prop :=
  ∀ file : RcFile, file.load first.files root = file.load second.files root

namespace History

/-- No document gets the same version twice. -/
def NumbersOnce (history : History) : Prop :=
  (history.filterMap fun step => step.2.gives?).Nodup

/-- Whether a run has told of all changes of configuration files up to now: after a step at which a
file had something else to say comes one that tells of that file, and from then on the file has had
the same to say as now. -/
def Settled (root : Option Path) (history : History) (now : World) : Prop :=
  ∀ (file : RcFile) (before : History) (step : World × Event) (later : History),
    history = before ++ step :: later →
    file.load step.1.files root ≠ file.load now.files root →
      ∃ front announcement rest, later = front ++ announcement :: rest ∧
        announcement.2.Announces root file ∧ ∀ other ∈ announcement :: rest,
          file.load other.1.files root = file.load now.files root

end History

namespace Session

/-- Whether every event of a run is proper at its moment. -/
def IsProper (session : Session) (history : History) : Prop :=
  session.Throughout (fun session _ event => event.IsProper session.documents) history

/-- Whether a document, if it is open, is waiting for a check of its version or is shown what a scan
of its stored text finds now. -/
def IsCurrent (session : Session) (shown : List Publication) (now : World) (uri : Uri) : Prop :=
  ∀ document, session.documents.get? uri = some document →
    (∃ pending ∈ session.pending, pending.uri = uri ∧ pending.version = document.version) ∨
    ∀ markers, session.markers? now uri document.text = some markers →
      lastShown? shown uri = some markers

variable {session next : Session} {shown new : List Publication} {world now : World} {uri : Uri}

theorem isCurrent_of_lastShown?
    (scanned : ∀ document, next.documents.get? uri = some document →
      lastShown? new uri = next.markers? world uri document.text) :
    next.IsCurrent (shown ++ new) world uri := by
  intro document known
  refine Or.inr fun markers finds => ?_
  rw [lastShown?_append, scanned document known, finds]
  rfl

/-- A document that a step does not touch stays up to date. -/
theorem IsCurrent.of_untouched (current : session.IsCurrent shown world uri)
    (kept : next.documents.get? uri = session.documents.get? uri)
    (waits : ∀ pending ∈ session.pending, ∀ document, pending.uri = uri →
      session.documents.get? uri = some document → pending.version = document.version →
        pending ∈ next.pending)
    (alike : ∀ text, next.markers? world uri text = session.markers? world uri text)
    (silent : lastShown? new uri = none) : next.IsCurrent (shown ++ new) world uri := by
  intro document known
  rw [kept] at known
  rcases current document known with ⟨pending, inside, here, version⟩ | upToDate
  · exact Or.inl ⟨pending, waits pending inside document here known version, here, version⟩
  · refine Or.inr fun markers finds => ?_
    rw [lastShown?_append, silent, Option.none_or]
    exact upToDate markers (by rwa [← alike])

/-- A document that a check covers is up to date afterwards, and all others stay so. -/
theorem IsCurrent.check {checked : Uri} {text : String} {version : Option Int}
    (current : session.IsCurrent shown world uri)
    (stored : ∀ document, session.documents.get? checked = some document → document.text = text) :
    session.IsCurrent (shown ++ (session.check world checked text version).publications)
      world uri := by
  by_cases same : uri = checked
  · subst same
    refine isCurrent_of_lastShown? fun document known => ?_
    rw [lastShown?_check, if_pos rfl, stored document known]
  · exact current.of_untouched rfl (fun _ inside _ _ _ _ => inside) (fun _ => rfl)
      (by rw [lastShown?_check, if_neg same])

theorem isCurrent_checkAll (distinct : session.documents.Distinct) :
    session.IsCurrent (shown ++ (session.checkAll world).publications) world uri := by
  refine isCurrent_of_lastShown? fun document known => ?_
  rw [lastShown?_checkAll distinct, known]
  rfl

theorem IsCurrent.opened (current : session.IsCurrent shown world uri) (opening : Uri)
    (document : Document) :
    (session.step world (.opened opening document)).1.IsCurrent
      (shown ++ (session.step world (.opened opening document)).2.publications) world uri := by
  by_cases same : uri = opening
  · subst same
    refine isCurrent_of_lastShown? fun stored known => ?_
    simp only [step, Documents.get?_insert, if_true, Option.some.injEq] at known
    subst known
    simp only [step, lastShown?_check, if_true]
  · refine current.of_untouched ?_ (fun _ inside _ _ _ _ => inside) (fun _ => rfl) ?_
    · simp only [step, Documents.get?_insert, if_neg same]
    · simp only [step, lastShown?_check, if_neg same]

theorem IsCurrent.changed (current : session.IsCurrent shown world uri) (changing : Uri)
    (version : Int) (texts : List String) :
    (session.step world (.changed changing version texts)).1.IsCurrent
      (shown ++ (session.step world (.changed changing version texts)).2.publications)
      world uri := by
  cases last : texts.getLast? with
  | none => simpa [step, last, Report.nothing] using current
  | some text =>
      simp only [step, last]
      by_cases same : uri = changing
      · subst same
        intro stored known
        simp only [Documents.get?_insert, if_true, Option.some.injEq] at known
        subst known
        exact Or.inl ⟨_, List.mem_concat_self, rfl, rfl⟩
      · refine current.of_untouched ?_ (fun _ inside _ _ _ _ => List.mem_append_left _ inside)
          (fun _ => rfl) rfl
        simp only [Documents.get?_insert, if_neg same]

theorem IsCurrent.closed (current : session.IsCurrent shown world uri) (closing : Uri) :
    (session.step world (.closed closing)).1.IsCurrent
      (shown ++ (session.step world (.closed closing)).2.publications) world uri := by
  by_cases same : uri = closing
  · intro stored known
    simp [step, Documents.get?_erase, same] at known
  · refine current.of_untouched ?_ (fun _ inside _ _ _ _ => inside) (fun _ => rfl) ?_
    · simp only [step, Documents.get?_erase, if_neg same]
    · simp [step, lastShown?, Ne.symm same]

private theorem mem_eraseIdx_of_ne {checks : List PendingCheck} {index : Nat}
    {pending other : PendingCheck} (found : checks[index]? = some pending)
    (inside : other ∈ checks) (apart : other ≠ pending) : other ∈ checks.eraseIdx index := by
  obtain ⟨place, here⟩ := List.mem_iff_getElem?.mp inside
  refine List.mem_eraseIdx_iff_getElem?.mpr ⟨place, ?_, here⟩
  rintro rfl
  exact apart (Option.some.inj (here.symm.trans found))

/-- The end of a wait keeps a document up to date: it scans the stored text, or gives up a check
that the document was not waiting for. -/
theorem IsCurrent.expired (current : session.IsCurrent shown world uri)
    (texts : ∀ pending ∈ session.pending, ∀ document,
      session.documents.get? pending.uri = some document →
        document.version = pending.version → document.text = pending.text) (index : Nat) :
    (session.step world (.expired index)).1.IsCurrent
      (shown ++ (session.step world (.expired index)).2.publications) world uri := by
  rcases step_expired_cases session world index with
    ⟨_, nothing⟩ | ⟨pending, found, ⟨document, known, version, checks⟩ | ⟨outdated, gives⟩⟩
  · rw [nothing]
    simpa [Report.nothing] using current
  · rw [checks]
    by_cases same : uri = pending.uri
    · subst same
      refine isCurrent_of_lastShown? fun stored knownToo => ?_
      obtain rfl : stored = document := Option.some.inj (knownToo.symm.trans known)
      rw [lastShown?_check, if_pos rfl,
        texts pending (List.mem_of_getElem? found) stored known version]
      rfl
    · refine current.of_untouched rfl (fun other inside _ here _ _ => ?_) (fun _ => rfl) ?_
      · refine mem_eraseIdx_of_ne found inside ?_
        rintro rfl
        exact same here.symm
      · rw [lastShown?_check, if_neg same]
  · rw [gives]
    refine current.of_untouched rfl (fun other inside document here known version => ?_)
      (fun _ => rfl) rfl
    refine mem_eraseIdx_of_ne found inside ?_
    rintro rfl
    exact outdated document (here ▸ known) version.symm

/-- Hearing of a configuration file brings all documents up to date, whatever came before. -/
theorem isCurrent_step_of_rcFile {uris : List Uri} (distinct : session.documents.Distinct)
    (tells : uris.any isRcFile = true) :
    (session.step world (.filesChanged uris)).1.IsCurrent
      (shown ++ (session.step world (.filesChanged uris)).2.publications) world uri := by
  rw [step_filesChanged_fst, step_filesChanged_publications, if_pos tells]
  exact isCurrent_checkAll distinct

/-- A proper step keeps all documents up to date if the pending checks of current versions hold the
stored texts. -/
theorem IsCurrent.step {event : Event} (current : session.IsCurrent shown world uri)
    (distinct : session.documents.Distinct) (proper : event.IsProper session.documents)
    (texts : ∀ pending ∈ session.pending, ∀ document,
      session.documents.get? pending.uri = some document →
        document.version = pending.version → document.text = pending.text) :
    (session.step world event).1.IsCurrent
      (shown ++ (session.step world event).2.publications) world uri := by
  cases event with
  | opened opening document => exact current.opened opening document
  | changed changing version texts => exact current.changed changing version texts
  | closed closing => exact current.closed closing
  | expired index => exact current.expired texts index
  | saved saving text =>
      obtain ⟨document, known, agrees⟩ := proper
      cases text with
      | some text =>
          refine current.check fun stored same => ?_
          rw [Option.some.inj (same.symm.trans known), agrees text rfl]
      | none =>
          simp only [Session.step, known]
          refine current.check fun stored same => ?_
          rw [Option.some.inj (same.symm.trans known)]
  | settingsChanged settings =>
      rw [step_settingsChanged_fst, step_settingsChanged_publications]
      cases states : (session.applySettings settings).2 with
      | nil => simpa [applySettings_eq_self states] using current
      | cons _ _ =>
          refine isCurrent_checkAll ?_
          rwa [(applySettings_fixed settings).1]
  | filesChanged uris =>
      cases tells : uris.any isRcFile with
      | true => exact isCurrent_step_of_rcFile distinct tells
      | false =>
          rw [step_filesChanged_fst, step_filesChanged_publications, tells]
          simpa using current

/-- Where engines ignore the world and no configuration file has anything else to say, scans find
the same. -/
theorem markers?_congr (html : session.service.engines.html.IgnoresWorld)
    (xml : session.service.engines.xml.IgnoresWorld)
    (alike : World.Alike session.workspace.root world now) (uri : Uri) (text : String) :
    session.markers? world uri text = session.markers? now uri text := by
  have sameScan (path : Path) :
      session.service.scan world session.workspace text path =
        session.service.scan now session.workspace text path :=
    session.service.scan_congr html xml alike text path
  simp only [markers?, sameScan]

end Session

section

variable {workspace : Workspace} {service : LintService} {history : History} {now : World}

theorem Event.gives?_of_stores? {event : Event} {uri : Uri} {document : Document}
    (stores : event.stores? = some (uri, document)) :
    event.gives? = some (uri, document.version) := by
  cases event with
  | opened other stored =>
      cases stores
      rfl
  | changed other version texts =>
      obtain ⟨text, _, same⟩ := Event.stores?_changed_eq_some.mp stores
      cases same
      rfl
  | saved | closed | settingsChanged | filesChanged | expired => cases stores

/-- In a run that gives no document the same version twice, a version tells the event. -/
theorem History.NumbersOnce.step_eq (once : history.NumbersOnce) {first second : World × Event}
    {number : Uri × Int} (inside : first ∈ history) (other : second ∈ history)
    (gives : first.2.gives? = some number) (too : second.2.gives? = some number) :
    first = second := by
  by_contra different
  have symmetric : Std.Symm fun first second : World × Event =>
      ∀ number, first.2.gives? = some number → ∀ again, second.2.gives? = some again →
        number ≠ again :=
    ⟨fun _ _ apart _ gives _ too same => apart _ too _ gives same.symm⟩
  exact (List.pairwise_filterMap.mp once).forall inside other different number gives number too rfl

/-- A pending check of the current version of a document holds its stored text. -/
theorem text_eq_of_numbersOnce (once : history.NumbersOnce) {pending : PendingCheck}
    (waits : pending ∈ ((Session.start workspace service).after history).pending)
    {document : Document}
    (known : ((Session.start workspace service).after history).documents.get? pending.uri =
      some document)
    (version : document.version = pending.version) : document.text = pending.text := by
  obtain ⟨before, changeWorld, texts, rest, made, last⟩ :=
    Session.exists_changed_of_mem_pending_after waits
  obtain ⟨front, world, event, later, stored, stores, _⟩ :=
    Session.exists_stores_of_get?_after known
  have gives := Event.gives?_of_stores? stores
  rw [version] at gives
  have changing : ((changeWorld, .changed pending.uri pending.version texts) : World × Event) ∈
      history := by simp [made]
  have storing : (world, event) ∈ history := by simp [stored]
  have same := once.step_eq changing storing rfl gives
  obtain ⟨_, rfl⟩ := Prod.mk.inj same
  rw [Event.stores?_changed last] at stores
  cases stores
  rfl

theorem Event.Announces.rescans {root : Option Path} {file : RcFile} {event : Event}
    (announces : event.Announces root file) :
    ∃ uris, event = .filesChanged uris ∧ uris.any Session.isRcFile = true := by
  cases event with
  | filesChanged uris =>
      obtain ⟨uri, inside, path, folder, leads, _, same⟩ := announces
      refine ⟨uris, rfl, List.any_eq_true.mpr ⟨uri, inside, ?_⟩⟩
      simp [Session.isRcFile, leads, file.ofPath?_of_same_join folder same]
  | opened | changed | saved | closed | settingsChanged | expired => exact announces.elim

theorem History.Settled.alike {root : Option Path} {world : World} {event : Event}
    (settled : History.Settled root (history ++ [(world, event)]) now) :
    World.Alike root world now := by
  intro file
  by_contra differs
  obtain ⟨front, announcement, rest, none, _⟩ :=
    settled file history (world, event) [] rfl differs
  simp at none

/-- Unless its last step tells of a configuration file, a settled run was settled before it. -/
theorem History.Settled.before {root : Option Path} {world : World} {event : Event}
    (settled : History.Settled root (history ++ [(world, event)]) now)
    (silent : ∀ file, ¬ event.Announces root file) : history.Settled root world := by
  intro file front step later whole differs
  have alike := settled.alike file
  rw [alike] at differs
  obtain ⟨middle, announcement, rest, split, announces, since⟩ :=
    settled file front step (later ++ [(world, event)]) (by simp [whole]) differs
  rcases List.eq_nil_or_concat' rest with rfl | ⟨rest, last, rfl⟩
  · obtain ⟨_, same⟩ := List.append_inj' split rfl
    obtain rfl := List.singleton_inj.mp same
    exact absurd announces (silent file)
  · rw [← List.cons_append, ← List.append_assoc] at split
    obtain ⟨rfl, _⟩ := List.append_inj' split rfl
    refine ⟨middle, announcement, rest, rfl, announces, fun other inside => ?_⟩
    rw [since other (List.mem_append_left _ inside), alike]

/-- After every settled run, every document is up to date. -/
theorem isCurrent_after (html : service.engines.html.IgnoresWorld)
    (xml : service.engines.xml.IgnoresWorld)
    (proper : (Session.start workspace service).IsProper history) (once : history.NumbersOnce)
    (settled : history.Settled workspace.root now) (uri : Uri) :
    ((Session.start workspace service).after history).IsCurrent
      ((Session.start workspace service).published history) now uri := by
  induction history using List.reverseRecOn generalizing now with
  | nil =>
      intro document known
      cases known
  | append_singleton before step ih =>
      obtain ⟨world, event⟩ := step
      let start := Session.start workspace service
      obtain ⟨properBefore, properEvent, _⟩ := (Session.throughout_append ..).mp proper
      have onceBefore : History.NumbersOnce before :=
        List.Nodup.sublist ((List.sublist_append_left ..).filterMap _) once
      have distinct : (start.after before).documents.Distinct :=
        Session.distinct_after Documents.distinct_empty before
      have fixed := Session.fixed_after start (before ++ [(world, event)])
      -- What holds in the world of the last step holds in the present one.
      have sameMarkers (text : String) :
          (start.after (before ++ [(world, event)])).markers? world uri text =
            (start.after (before ++ [(world, event)])).markers? now uri text :=
        Session.markers?_congr (by rwa [fixed.1]) (by rwa [fixed.1])
          (by rw [fixed.2]; exact settled.alike) uri text
      suffices current : (start.after (before ++ [(world, event)])).IsCurrent
          (start.published (before ++ [(world, event)])) world uri by
        intro document known
        rw [← sameMarkers]
        exact current document known
      rw [Session.after_concat, Session.published_concat]
      by_cases rescans : ∃ uris, event = .filesChanged uris ∧ uris.any Session.isRcFile = true
      · obtain ⟨uris, rfl, tells⟩ := rescans
        exact Session.isCurrent_step_of_rcFile distinct tells
      · have settledBefore : History.Settled workspace.root before world :=
          settled.before fun file announces => rescans announces.rescans
        have current := ih properBefore onceBefore settledBefore
        exact current.step distinct properEvent fun pending waits document known version =>
          text_eq_of_numbersOnce onceBefore waits known version

/-- At rest, with no check waiting and every change of a configuration file told, what is shown of
each open document that an adapter handles is what a scan of its stored text comes to now. -/
theorem lastShown?_at_rest (html : service.engines.html.IgnoresWorld)
    (xml : service.engines.xml.IgnoresWorld)
    (proper : (Session.start workspace service).IsProper history) (once : history.NumbersOnce)
    (settled : history.Settled workspace.root now)
    (rest : ((Session.start workspace service).after history).pending = [])
    {uri : Uri} {document : Document} {path : Path} {adapter : Adapter}
    (known : ((Session.start workspace service).after history).documents.get? uri = some document)
    (leads : uri.path? = some path) (handled : service.adapterFor? path = some adapter) :
    ∃ markers, lastShown? ((Session.start workspace service).published history) uri =
        some markers ∧
      Marker.Shows adapter.name
        (service.scan now ((Session.start workspace service).after history).workspace
          document.text path).run.result markers := by
  have sameService : ((Session.start workspace service).after history).service = service :=
    (Session.fixed_after ..).1
  rcases isCurrent_after html xml proper once settled uri document known with
    ⟨pending, waits, _⟩ | upToDate
  · rw [rest] at waits
    cases waits
  · refine ⟨_, upToDate _ ?_, Marker.shows_ofResult adapter.name _⟩
    simp only [Session.markers?, leads, Option.bind_some, sameService, handled, Option.map_some]

end

/-- A page that is open while a configuration file is written, and then changed, is shown what is
found in its new text under the new configuration. -/
theorem lastShown?_after_rc_edit :
    let root := Path.ofString "/"
    let ruledWorld : World :=
      ⟨⟨[], [([Octets.ofString RcFile.htmlHint.fileName],
        .file (Octets.ofString "\x7b\"title-require\":true\x7d") false)]⟩, []⟩
    let rcUris : List Uri := RcFile.all.map fun file =>
      ⟨"file", some .none, "/" ++ file.fileName, none, none⟩
    let history : History :=
      [(emptyWorld, .opened samplePage ⟨"first", 1⟩),
        (ruledWorld, .filesChanged rcUris),
        (ruledWorld, .changed samplePage 2 ["second"]),
        (ruledWorld, .expired 0)]
    let start := Session.start ⟨.builtin, some root⟩ echoService
    start.IsProper history ∧ history.NumbersOnce ∧ history.Settled (some root) ruledWorld ∧
      (start.after history).pending = [] ∧
      (start.after history).documents.get? samplePage = some ⟨"second", 2⟩ ∧
      lastShown? (start.published history) samplePage =
        some [⟨⟨0, 0⟩, .warning, none, "HTMLHint", "second"⟩] := by
  intro root ruledWorld rcUris history start
  have proper : start.IsProper history := by
    simp only [start, history, Session.IsProper, Session.Throughout, Event.IsProper,
      Session.step_filesChanged_fst]
    simp [Session.step, Session.start, Documents.get?_insert]
  have once : history.NumbersOnce := by
    simp [History.NumbersOnce, history, Event.gives?]
  have told (file : RcFile) :
      Event.Announces (some root) file (.filesChanged rcUris) := by
    refine ⟨⟨"file", some .none, "/" ++ file.fileName, none, none⟩,
      List.mem_map.mpr ⟨file, by cases file <;> decide, rfl⟩,
      root.join (Path.ofString file.fileName), root, ?_, rfl, by simp [Path.same]⟩
    cases file <;> decide +kernel
  have settled : history.Settled (some root) ruledWorld := by
    intro file before step later whole differs
    cases before with
    | nil =>
        have tail : history.tail = later := by rw [whole, List.nil_append, List.tail_cons]
        exact ⟨[], _, _, tail.symm, told file, by simp⟩
    | cons first before =>
        have inTail : step ∈ history.tail := by simp [whole]
        have unchanged : step.1 = ruledWorld := by
          simp only [history, List.tail_cons, List.mem_cons, List.not_mem_nil, or_false] at inTail
          rcases inTail with rfl | rfl | rfl <;> rfl
        rw [unchanged] at differs
        exact absurd rfl differs
  have reached : start.after history =
      ⟨⟨.builtin, some root⟩, echoService, ⟨[(samplePage, ⟨"second", 2⟩)]⟩, [], 0⟩ := by
    simp only [history, Session.after, Session.step_filesChanged_fst, Session.step_expired_fst]
    simp [start, Session.step, Session.start, Documents.insert, Documents.insertEntry,
      Documents.empty]
  have rest : (start.after history).pending = [] := by rw [reached]
  have known : (start.after history).documents.get? samplePage = some ⟨"second", 2⟩ := by
    simp [reached, Documents.get?]
  obtain ⟨markers, shown, shows⟩ :=
    lastShown?_at_rest (fun _ _ _ _ => rfl) (fun _ _ _ _ => rfl) proper once settled rest known
      path?_samplePage adapterFor?_samplePage
  have scanned : (echoService.scan ruledWorld (start.after history).workspace "second"
      (Path.ofString "/index.html")).run.result =
        .ok (some ⟨[⟨⟨0, 0⟩, "second", .warning, none⟩]⟩) := by
    rw [reached]
    decide +kernel
  rw [scanned] at shows
  cases shows with
  | found each =>
      obtain ⟨marker, others, rfl, none, rfl⟩ := List.forall₂_cons_left_iff.mp each
      obtain rfl := List.forall₂_nil_left_iff.mp none
      exact ⟨proper, once, settled, rest, known, shown⟩

end MarkupLint.Server

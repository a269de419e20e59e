import MarkupLint.Proofs.Server.Shown

/-!
# Closed documents stay cleared

A host that changes, saves and closes only documents that are open never gets markers for any other
document: whatever a step publishes is either the empty publication of a close or about a document
that is open after the step.  So a closed document is shown nothing, and no wait that began while it
was open and no check of all documents says anything about it until it is opened again.
-/

namespace MarkupLint.Server

/-- Whether an event that changes, saves or closes a document is about one that is open. -/
def Event.NamesOpen (documents : Documents) : Event → Prop
  | .changed uri _ _ => (documents.get? uri).isSome
  | .saved uri _ => (documents.get? uri).isSome
  | .closed uri => (documents.get? uri).isSome
  | _ => True

/-- Whether only open documents are changed, saved and closed in a run. -/
def Session.NamesOpen (session : Session) (history : History) : Prop :=
  session.Throughout (fun session _ event => event.NamesOpen session.documents) history

theorem Documents.isSome_get?_of_mem {documents : Documents} {entry : Uri × Document}
    (inside : entry ∈ documents.entries) : (documents.get? entry.1).isSome := by
  cases found : documents.get? entry.1 with
  | some document => rfl
  | none =>
      have different := List.lookup_eq_none_iff.mp found entry inside
      simp at different

section

variable {session : Session} {world : World} {event : Event} {publication : Publication}

theorem uri_eq_of_mem_check {uri : Uri} {text : String} {version : Option Int}
    (inside : publication ∈ (session.check world uri text version).publications) :
    publication.uri = uri := by
  rw [Session.check_publications, Option.mem_toList, Option.map_eq_some_iff] at inside
  obtain ⟨markers, _, rfl⟩ := inside
  rfl

theorem isSome_get?_of_mem_checkAll
    (inside : publication ∈ (session.checkAll world).publications) :
    (session.documents.get? publication.uri).isSome := by
  rw [Session.checkAll_publications] at inside
  obtain ⟨entry, known, here⟩ := List.mem_flatMap.mp inside
  rw [uri_eq_of_mem_check here]
  exact Documents.isSome_get?_of_mem known

/-- A step publishes for documents that are open afterwards, apart from the empty publication of a
close. -/
theorem closes_or_open_of_mem_step (proper : event.NamesOpen session.documents)
    (inside : publication ∈ (session.step world event).2.publications) :
    (event = .closed publication.uri ∧ publication.markers = []) ∨
      ((session.step world event).1.documents.get? publication.uri).isSome := by
  cases event with
  | closed uri =>
      left
      obtain rfl := List.mem_singleton.mp inside
      exact ⟨rfl, rfl⟩
  | opened uri document =>
      right
      rw [uri_eq_of_mem_check inside]
      simp [Session.step, Documents.get?_insert]
  | changed uri version texts =>
      cases last : texts.getLast? <;> simp [Session.step, last, Report.nothing] at inside
  | saved uri text =>
      right
      have stays : (session.documents.get? uri).isSome := proper
      rw [Session.step_saved_fst]
      cases text with
      | some text =>
          rw [uri_eq_of_mem_check inside]
          exact stays
      | none =>
          obtain ⟨document, known⟩ := Option.isSome_iff_exists.mp stays
          simp only [Session.step, known] at inside
          rw [uri_eq_of_mem_check inside]
          exact stays
  | settingsChanged settings =>
      right
      rw [Session.step_settingsChanged_publications] at inside
      rw [Session.step_settingsChanged_fst]
      split at inside
      · exact absurd inside List.not_mem_nil
      · exact isSome_get?_of_mem_checkAll inside
  | filesChanged uris =>
      right
      rw [Session.step_filesChanged_publications] at inside
      rw [Session.step_filesChanged_fst]
      split at inside
      · exact isSome_get?_of_mem_checkAll inside
      · exact absurd inside List.not_mem_nil
  | expired index =>
      right
      rcases Session.step_expired_cases session world index with
        ⟨_, nothing⟩ | ⟨pending, _, ⟨document, known, _, checks⟩ | ⟨_, gives⟩⟩
      · rw [nothing] at inside
        exact absurd inside List.not_mem_nil
      · rw [checks] at inside ⊢
        rw [uri_eq_of_mem_check inside]
        exact Option.isSome_of_eq_some known
      · rw [gives] at inside
        exact absurd inside List.not_mem_nil

theorem lastShown?_eq_none {publications : List Publication} {uri : Uri}
    (others : ∀ publication ∈ publications, publication.uri ≠ uri) :
    lastShown? publications uri = none := by
  have noneLeft : (publications.filterMap fun publication =>
      if publication.uri = uri then some publication.markers else none) = [] := by
    rw [List.filterMap_eq_nil_iff]
    intro publication inside
    exact if_neg (others publication inside)
  rw [lastShown?, noneLeft, List.getLast?_nil]

/-- A document that is not open after a step was closed by it, or was not open before and is not
spoken of. -/
theorem closed_or_silent_of_absent {uri : Uri} (proper : event.NamesOpen session.documents)
    (absent : (session.step world event).1.documents.get? uri = none) :
    event = .closed uri ∨ session.documents.get? uri = none ∧
      ∀ publication ∈ (session.step world event).2.publications, publication.uri ≠ uri := by
  rcases Session.get?_step session world event uri with
    ⟨document, _, known⟩ | ⟨closes, _⟩ | ⟨_, staysOpen, kept⟩
  · rw [known] at absent
    cases absent
  · exact Or.inl closes
  · right
    refine ⟨kept ▸ absent, ?_⟩
    rintro publication inside rfl
    rcases closes_or_open_of_mem_step proper inside with ⟨closes, _⟩ | known
    · exact staysOpen closes
    · rw [absent] at known
      cases known

/-- A document that is not open stays so until it is opened. -/
theorem get?_step_of_absent {uri : Uri} (proper : event.NamesOpen session.documents)
    (absent : session.documents.get? uri = none)
    (notOpened : ∀ document, event ≠ .opened uri document) :
    (session.step world event).1.documents.get? uri = none := by
  rcases Session.get?_step session world event uri with
    ⟨document, stores, _⟩ | ⟨_, gone⟩ | ⟨_, _, kept⟩
  · cases event with
    | opened other stored =>
        cases stores
        exact absurd rfl (notOpened document)
    | changed other version texts =>
        obtain ⟨text, _, same⟩ := Event.stores?_changed_eq_some.mp stores
        cases same
        simp [Event.NamesOpen, absent] at proper
    | saved | closed | settingsChanged | filesChanged | expired => cases stores
  · exact gone
  · rw [kept, absent]

end

section

variable {session : Session} {workspace : Workspace} {service : LintService} {history : History}
  {uri : Uri}

/-- Until it is opened again, nothing is published for a document that is not open. -/
theorem silent_of_absent (proper : session.NamesOpen history)
    (absent : session.documents.get? uri = none)
    (staysClosed : ∀ step ∈ history, ∀ document, step.2 ≠ .opened uri document) :
    ∀ publication ∈ session.published history, publication.uri ≠ uri := by
  induction history generalizing session with
  | nil =>
      intro publication inside
      cases inside
  | cons step later ih =>
      obtain ⟨world, event⟩ := step
      obtain ⟨properNow, properLater⟩ := proper
      rw [List.forall_mem_cons] at staysClosed
      have notClosed : event ≠ .closed uri := by
        rintro rfl
        simp [Event.NamesOpen, absent] at properNow
      have still : (session.step world event).1.documents.get? uri = none :=
        get?_step_of_absent properNow absent staysClosed.1
      have silentNow :=
        ((closed_or_silent_of_absent properNow still).resolve_left notClosed).2
      have silentLater := ih properLater still staysClosed.2
      intro publication inside
      rcases List.mem_append.mp inside with now | afterwards
      · exact silentNow publication now
      · exact silentLater publication afterwards

theorem lastShown?_of_absent (proper : (Session.start workspace service).NamesOpen history)
    (absent : ((Session.start workspace service).after history).documents.get? uri = none) :
    lastShown? ((Session.start workspace service).published history) uri = none ∨
      lastShown? ((Session.start workspace service).published history) uri = some [] := by
  induction history using List.reverseRecOn with
  | nil => exact Or.inl rfl
  | append_singleton before step ih =>
      obtain ⟨world, event⟩ := step
      obtain ⟨properBefore, properNow, _⟩ := (Session.throughout_append ..).mp proper
      rw [Session.after_concat] at absent
      rw [Session.published_concat, lastShown?_append]
      rcases closed_or_silent_of_absent properNow absent with rfl | ⟨absentBefore, silent⟩
      · right
        simp [Session.step, lastShown?]
      · rw [lastShown?_eq_none silent, Option.none_or]
        exact ih properBefore absentBefore

/-- Whatever the order in which waits end, a document that is not open is shown nothing, and after
its close nothing is published for it until it is opened again. -/
theorem closed_stays_cleared (proper : (Session.start workspace service).NamesOpen history) :
    (∀ uri, ((Session.start workspace service).after history).documents.get? uri = none →
      lastShown? ((Session.start workspace service).published history) uri = none ∨
        lastShown? ((Session.start workspace service).published history) uri = some []) ∧
    ∀ (before : History) (world : World) (uri : Uri) (later rest : History),
      history = before ++ [(world, .closed uri)] ++ later ++ rest →
      (∀ step ∈ later, ∀ document, step.2 ≠ .opened uri document) →
      ∀ publication ∈ ((Session.start workspace service).after
          (before ++ [(world, .closed uri)])).published later, publication.uri ≠ uri := by
  constructor
  · intro uri absent
    exact lastShown?_of_absent proper absent
  · rintro before world uri later rest rfl staysClosed
    have properUntil := ((Session.throughout_append ..).mp proper).1
    have properLater := ((Session.throughout_append ..).mp properUntil).2
    apply silent_of_absent properLater _ staysClosed
    rw [Session.after_concat]
    simp [Session.step, Documents.get?_erase]

end

/-- A page that is closed while a check of it waits is shown nothing when the wait ends. -/
theorem closed_stays_cleared_while_waiting :
    let history : History :=
      [(emptyWorld, .opened samplePage ⟨"first", 1⟩),
        (emptyWorld, .changed samplePage 2 ["second"]),
        (emptyWorld, .closed samplePage),
        (emptyWorld, .expired 0)]
    let start := Session.start .initial echoService
    start.NamesOpen history ∧ (start.after history).documents.get? samplePage = none ∧
      (lastShown? (start.published history) samplePage = none ∨
        lastShown? (start.published history) samplePage = some []) ∧
      ∀ publication ∈ (start.after (history.take 3)).published [(emptyWorld, .expired 0)],
        publication.uri ≠ samplePage := by
  intro history start
  have proper : start.NamesOpen history := by
    simp [start, history, Session.NamesOpen, Session.Throughout, Event.NamesOpen, Session.step,
      Session.start, Documents.get?_insert]
  have absent : (start.after history).documents.get? samplePage = none := by
    simp only [history, Session.after, Session.step_expired_fst]
    simp [Session.step, Documents.get?_erase]
  obtain ⟨cleared, silent⟩ := closed_stays_cleared proper
  exact ⟨proper, absent, cleared samplePage absent,
    silent (history.take 2) emptyWorld samplePage [(emptyWorld, .expired 0)] [] rfl (by simp)⟩

end MarkupLint.Server

import MarkupLint.Proofs.Server.Documents
import MarkupLint.Server.Session

/-!
# What a step of a session does

Each part of a session is followed through one step: the open documents, the pending checks and
what is fixed.  The end of a wait either scans the text that waited, for a document that still has
the version of that text, or does nothing but give up the check.
-/

namespace MarkupLint

/-- Whether an identifier leads to a file that an adapter of the service handles. -/
def LintService.Handles (service : LintService) (uri : Uri) : Prop :=
  ∃ path adapter, uri.path? = some path ∧ service.adapterFor? path = some adapter

namespace Server

/-- The document that an event stores, and under which identifier. -/
def Event.stores? : Event → Option (Uri × Document)
  | .opened uri document => some (uri, document)
  | .changed uri version texts => texts.getLast?.map fun text => (uri, ⟨text, version⟩)
  | _ => none

/-- Whether an event is the end of a wait. -/
def Event.isExpiry : Event → Bool
  | .expired _ => true
  | _ => false

theorem Event.stores?_changed {texts : List String} {text : String}
    (last : texts.getLast? = some text) (uri : Uri) (version : Int) :
    (Event.changed uri version texts).stores? = some (uri, ⟨text, version⟩) := by
  rw [Event.stores?, last, Option.map_some]

theorem Event.stores?_changed_eq_some {uri : Uri} {version : Int} {texts : List String}
    {stored : Uri × Document} :
    (Event.changed uri version texts).stores? = some stored ↔
      ∃ text, texts.getLast? = some text ∧ (uri, ⟨text, version⟩) = stored :=
  Option.map_eq_some_iff

theorem Event.isExpiry_of_stores? {event : Event} {stored : Uri × Document}
    (stores : event.stores? = some stored) : event.isExpiry = false := by
  cases event with
  | expired index => cases stores
  | _ => rfl

namespace Session

/-- The markers that scanning a text would show, unless its document is passed over. -/
def markers? (session : Session) (world : World) (uri : Uri) (text : String) :
    Option (List Marker) :=
  uri.path?.bind fun path => (session.service.adapterFor? path).map fun adapter =>
    Marker.ofResult adapter.name
      (session.service.scan world session.workspace text path).run.result

variable {session : Session} {world : World}

theorem isSome_markers?_iff (world : World) (uri : Uri) (text : String) :
    (session.markers? world uri text).isSome ↔ session.service.Handles uri := by
  unfold markers? LintService.Handles
  cases uri.path? with
  | none => simp
  | some path => simp [Option.isSome_iff_exists]

theorem check_publications (uri : Uri) (text : String) (version : Option Int) :
    (session.check world uri text version).publications =
      ((session.markers? world uri text).map fun markers =>
        (⟨uri, markers, version⟩ : Publication)).toList := by
  unfold check markers?
  cases uri.path? with
  | none => rfl
  | some path =>
      cases handled : session.service.adapterFor? path with
      | none => simp [LintService.scan, handled, Report.nothing]
      | some adapter => simp [LintService.scan, handled]

theorem checkAll_publications :
    (session.checkAll world).publications = session.documents.entries.flatMap fun entry =>
      (session.check world entry.1 entry.2.text (some entry.2.version)).publications := by
  unfold checkAll
  induction session.documents.entries with
  | nil => rfl
  | cons entry rest ih =>
      simp only [List.map_cons, List.flatMap_cons, ← ih]
      rfl

theorem step_expired_of_absent {index : Nat} (absent : session.pending[index]? = none) :
    session.step world (.expired index) = (session, .nothing) := by
  simp only [step, expire, absent]

theorem step_expired_of_current {index : Nat} {pending : PendingCheck} {document : Document}
    (found : session.pending[index]? = some pending)
    (known : session.documents.get? pending.uri = some document)
    (current : document.version = pending.version) :
    session.step world (.expired index) =
      ({ session with pending := session.pending.eraseIdx index },
        session.check world pending.uri pending.text (some pending.version)) := by
  simp only [step, expire, found, known, if_pos current]
  rfl

theorem step_expired_of_outdated {index : Nat} {pending : PendingCheck}
    (found : session.pending[index]? = some pending)
    (outdated : ∀ document, session.documents.get? pending.uri = some document →
      document.version ≠ pending.version) :
    session.step world (.expired index) =
      ({ session with pending := session.pending.eraseIdx index }, .nothing) := by
  cases known : session.documents.get? pending.uri with
  | none => simp only [step, expire, found, known]
  | some document => simp only [step, expire, found, known, if_neg (outdated document known)]

/-- The end of a wait either has nothing to end, or gives up one pending check and scans its text
exactly if the document still has its version. -/
theorem step_expired_cases (session : Session) (world : World) (index : Nat) :
    (session.pending[index]? = none ∧
      session.step world (.expired index) = (session, .nothing)) ∨
    ∃ pending, session.pending[index]? = some pending ∧
      ((∃ document, session.documents.get? pending.uri = some document ∧
          document.version = pending.version ∧ session.step world (.expired index) =
            ({ session with pending := session.pending.eraseIdx index },
              session.check world pending.uri pending.text (some pending.version))) ∨
        (∀ document, session.documents.get? pending.uri = some document →
            document.version ≠ pending.version) ∧ session.step world (.expired index) =
          ({ session with pending := session.pending.eraseIdx index }, .nothing)) := by
  cases found : session.pending[index]? with
  | none => exact Or.inl ⟨rfl, step_expired_of_absent found⟩
  | some pending =>
      refine Or.inr ⟨pending, rfl, ?_⟩
      by_cases current : ∃ document, session.documents.get? pending.uri = some document ∧
          document.version = pending.version
      · obtain ⟨document, known, same⟩ := current
        exact Or.inl ⟨document, known, same, step_expired_of_current found known same⟩
      · have outdated : ∀ document, session.documents.get? pending.uri = some document →
            document.version ≠ pending.version :=
          fun document known same => current ⟨document, known, same⟩
        exact Or.inr ⟨outdated, step_expired_of_outdated found outdated⟩

/-- Whatever the end of a wait does, it changes nothing of a session but the pending checks. -/
theorem step_expired_fst (session : Session) (world : World) (index : Nat) :
    (session.step world (.expired index)).1 =
      { session with pending := session.pending.eraseIdx index } := by
  rcases step_expired_cases session world index with
    ⟨absent, nothing⟩ | ⟨_, _, ⟨_, _, _, checks⟩ | ⟨_, gives⟩⟩
  · rw [nothing, List.eraseIdx_of_length_le (List.getElem?_eq_none_iff.mp absent)]
  · rw [checks]
  · rw [gives]

theorem applySettings_fixed (settings : Json) :
    (session.applySettings settings).1.documents = session.documents ∧
      (session.applySettings settings).1.pending = session.pending ∧
      (session.applySettings settings).1.service = session.service ∧
      (session.applySettings settings).1.workspace.root = session.workspace.root := by
  unfold applySettings Workspace.applySettings
  cases session.workspace.preferences.apply (unwrapSettings settings) with
  | error error => exact ⟨rfl, rfl, rfl, rfl⟩
  | ok applied => exact ⟨rfl, rfl, rfl, rfl⟩

private theorem eq_of_apply_nil {store applied : PreferenceStore} {settings : Json}
    (states : store.apply settings = .ok (applied, [])) : applied = store := by
  cases settings with
  | object members =>
      obtain ⟨values, none⟩ := Prod.mk.inj (Except.ok.inj states)
      rw [← values, List.map_eq_nil_iff.mp none]
      rfl
  | _ => cases states

theorem applySettings_eq_self {settings : Json} (states : (session.applySettings settings).2 = []) :
    (session.applySettings settings).1 = session := by
  unfold applySettings Workspace.applySettings at *
  cases applied : session.workspace.preferences.apply (unwrapSettings settings) with
  | error error => rfl
  | ok result =>
      obtain ⟨preferences, changed⟩ := result
      obtain rfl : changed = [] := by simpa [applied, Except.map] using states
      simp [Except.map, eq_of_apply_nil applied]

theorem step_settingsChanged_fst (settings : Json) :
    (session.step world (.settingsChanged settings)).1 = (session.applySettings settings).1 := by
  simp only [step]
  split <;> rfl

theorem step_settingsChanged_publications (settings : Json) :
    (session.step world (.settingsChanged settings)).2.publications =
      if (session.applySettings settings).2.isEmpty then []
      else ((session.applySettings settings).1.checkAll world).publications := by
  simp only [step]
  split <;> simp_all [Report.nothing, Report.andThen]

theorem step_filesChanged_publications (uris : List Uri) :
    (session.step world (.filesChanged uris)).2.publications =
      if uris.any isRcFile then (session.checkAll world).publications else [] := by
  simp only [step]
  split <;> rfl

theorem step_filesChanged_fst (uris : List Uri) :
    (session.step world (.filesChanged uris)).1 = session := by
  simp only [step]
  split <;> rfl

theorem step_saved_fst (uri : Uri) (text : Option String) :
    (session.step world (.saved uri text)).1 = session := by
  cases text with
  | some text => rfl
  | none =>
      simp only [step]
      split <;> rfl

/-- A step stores a document, forgets one that is closed, and keeps all others. -/
theorem get?_step (session : Session) (world : World) (event : Event) (uri : Uri) :
    (∃ document, event.stores? = some (uri, document) ∧
      (session.step world event).1.documents.get? uri = some document) ∨
    (event = .closed uri ∧ (session.step world event).1.documents.get? uri = none) ∨
    ((∀ document, event.stores? ≠ some (uri, document)) ∧ event ≠ .closed uri ∧
      (session.step world event).1.documents.get? uri = session.documents.get? uri) := by
  cases event with
  | opened other document =>
      simp only [step, Event.stores?, Documents.get?_insert]
      by_cases same : uri = other
      · subst same
        simp
      · simp [same, Ne.symm same]
  | changed other version texts =>
      cases last : texts.getLast? with
      | none => simp [step, Event.stores?, last]
      | some text =>
          simp only [step, Event.stores?, last, Documents.get?_insert, Option.map_some]
          by_cases same : uri = other
          · subst same
            simp
          · simp [same, Ne.symm same]
  | closed other =>
      simp only [step, Event.stores?, Documents.get?_erase]
      by_cases same : uri = other
      · subst same
        simp
      · simp [same, Ne.symm same]
  | saved other text => simp [step_saved_fst, Event.stores?]
  | settingsChanged settings =>
      simp [step_settingsChanged_fst, applySettings_fixed, Event.stores?]
  | filesChanged uris => simp [step_filesChanged_fst, Event.stores?]
  | expired index => simp [step_expired_fst, Event.stores?]

theorem get?_step_of_stores {event : Event} {uri : Uri} {document : Document}
    (stores : event.stores? = some (uri, document)) :
    (session.step world event).1.documents.get? uri = some document := by
  rcases get?_step session world event uri with ⟨other, same, now⟩ | ⟨rfl, _⟩ | ⟨storesNot, _⟩
  · rw [stores] at same
    cases same
    exact now
  · cases stores
  · exact absurd stores (storesNot document)

/-- The documents after a step depend on nothing of the session but the documents before. -/
theorem documents_step_congr {first second : Session} (alike : first.documents = second.documents)
    (world : World) (event : Event) :
    (first.step world event).1.documents = (second.step world event).1.documents := by
  cases event with
  | opened uri document => simp only [step, alike]
  | changed uri version texts =>
      cases last : texts.getLast? <;> simp only [step, last, alike]
  | saved uri text => simp only [step_saved_fst, alike]
  | closed uri => simp only [step, alike]
  | settingsChanged settings =>
      simp only [step_settingsChanged_fst, (applySettings_fixed settings).1, alike]
  | filesChanged uris => simp only [step_filesChanged_fst, alike]
  | expired index => simp only [step_expired_fst, alike]

theorem distinct_step (distinct : session.documents.Distinct) (event : Event) :
    (session.step world event).1.documents.Distinct := by
  cases event with
  | opened uri document => exact distinct.insert uri document
  | changed uri version texts =>
      simp only [step]
      split
      · exact distinct
      · exact distinct.insert uri _
  | closed uri => exact distinct.erase uri
  | saved uri text => rwa [step_saved_fst]
  | settingsChanged settings =>
      rwa [step_settingsChanged_fst, (applySettings_fixed settings).1]
  | filesChanged uris => rwa [step_filesChanged_fst]
  | expired index => rwa [step_expired_fst]

/-- A change that stores a text lets that text wait; the end of a wait gives up one check; all else
leaves the pending checks alone. -/
theorem pending_step (session : Session) (world : World) (event : Event) :
    (∃ uri version texts text, event = .changed uri version texts ∧
      texts.getLast? = some text ∧ (session.step world event).1.pending =
        session.pending ++ [⟨uri, text, version, session.clock + checkDelay⟩]) ∨
    (∃ index, event = .expired index ∧
      (session.step world event).1.pending = session.pending.eraseIdx index) ∨
    (event.isExpiry = false ∧ (session.step world event).1.pending = session.pending) := by
  cases event with
  | changed uri version texts =>
      cases last : texts.getLast? with
      | none => exact Or.inr (Or.inr ⟨rfl, by simp [step, last]⟩)
      | some text => exact Or.inl ⟨uri, version, texts, text, rfl, last, by simp [step, last]⟩
  | expired index => exact Or.inr (Or.inl ⟨index, rfl, by rw [step_expired_fst]⟩)
  | opened uri document => exact Or.inr (Or.inr ⟨rfl, rfl⟩)
  | closed uri => exact Or.inr (Or.inr ⟨rfl, rfl⟩)
  | saved uri text => exact Or.inr (Or.inr ⟨rfl, by rw [step_saved_fst]⟩)
  | settingsChanged settings =>
      refine Or.inr (Or.inr ⟨rfl, ?_⟩)
      rw [step_settingsChanged_fst, (applySettings_fixed settings).2.1]
  | filesChanged uris => exact Or.inr (Or.inr ⟨rfl, by rw [step_filesChanged_fst]⟩)

theorem fixed_step (session : Session) (world : World) (event : Event) :
    (session.step world event).1.service = session.service ∧
      (session.step world event).1.workspace.root = session.workspace.root := by
  cases event with
  | changed uri version texts =>
      simp only [step]
      split <;> exact ⟨rfl, rfl⟩
  | expired index => rw [step_expired_fst]; exact ⟨rfl, rfl⟩
  | opened uri document => exact ⟨rfl, rfl⟩
  | closed uri => exact ⟨rfl, rfl⟩
  | saved uri text => rw [step_saved_fst]; exact ⟨rfl, rfl⟩
  | settingsChanged settings =>
      rw [step_settingsChanged_fst]
      exact (applySettings_fixed settings).2.2
  | filesChanged uris => rw [step_filesChanged_fst]; exact ⟨rfl, rfl⟩

end Session

end Server

end MarkupLint

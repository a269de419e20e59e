import MarkupLint.Proofs.Server.Runs

/-!
# Checks of texts that are no longer stored

A pending check holds the text that it will scan and is given up if its document has another
version by the end of the wait.  Within one opening of a document versions increase, so a version
stands for one text.  A document that is closed and opened again may come back to the version of a
check that still waits, and then the text of that check is scanned in place of the stored one.

The main statement says that this is the only way: the ends of waits can be placed among given
messages such that one of them scans a text that is not stored exactly if a changed document is
closed and later stored with the version of the change and another text.
-/

namespace MarkupLint.Server

/-- Whether an event keeps to the order of versions: a document that is known only gets greater
versions, and only known documents are changed or closed. -/
def Event.KeepsOrder (documents : Documents) : Event → Prop
  | .opened uri document =>
      ∀ known, documents.get? uri = some known → known.version < document.version
  | .changed uri version _ => ∃ known, documents.get? uri = some known ∧ known.version < version
  | .closed uri => (documents.get? uri).isSome
  | _ => True

/-- Whether an event is no end of a wait, or the end of a wait that scans nothing or the text that
is stored at that moment. -/
def Event.ScansStored (session : Session) (world : World) : Event → Prop
  | .expired index => ∀ pending, session.pending[index]? = some pending →
      (session.step world (.expired index)).2.publications ≠ [] →
        ∃ document, session.documents.get? pending.uri = some document ∧
          document.text = pending.text
  | _ => True

namespace Session

/-- Whether every event of a run keeps to the order of versions. -/
def KeepsOrder (session : Session) (history : History) : Prop :=
  session.Throughout (fun session _ event => event.KeepsOrder session.documents) history

/-- Whether every end of a wait in a run scans nothing or a text that is stored. -/
def ScansStored (session : Session) (history : History) : Prop :=
  session.Throughout (fun session world event => event.ScansStored session world) history

end Session

namespace History

/-- The events of a run that come from outside: all but the ends of waits. -/
def messages (history : History) : History := history.filter fun step => !step.2.isExpiry

/-- Whether a document that an adapter handles is changed, then closed, and later stored with the
version of the change and another text. -/
def Revives (service : LintService) (history : History) : Prop :=
  ∃ before changeWorld uri version texts text middle world event document later,
    history = before ++ (changeWorld, .changed uri version texts) :: middle ++
      (world, event) :: later ∧
    texts.getLast? = some text ∧ (∃ step ∈ middle, step.2 = .closed uri) ∧
    event.stores? = some (uri, document) ∧ document.version = version ∧ document.text ≠ text ∧
    service.Handles uri

end History

section

variable {session : Session} {world : World} {event : Event} {history : History} {uri : Uri}
  {document : Document}

theorem Event.KeepsOrder.version_lt {known : Document}
    (ordered : event.KeepsOrder session.documents) (stores : event.stores? = some (uri, document))
    (already : session.documents.get? uri = some known) : known.version < document.version := by
  cases event with
  | opened other stored =>
      cases stores
      exact ordered known already
  | changed other version texts =>
      obtain ⟨text, _, same⟩ := Event.stores?_changed_eq_some.mp stores
      cases same
      obtain ⟨found, here, less⟩ := ordered
      rwa [Option.some.inj (already.symm.trans here)]
  | saved | closed | settingsChanged | filesChanged | expired => cases stores

theorem messages_append (first second : History) :
    (first ++ second).messages = first.messages ++ second.messages :=
  List.filter_append ..

theorem messages_cons_of_message {world : World} {event : Event}
    (isMessage : event.isExpiry = false) (later : History) :
    History.messages ((world, event) :: later) = (world, event) :: later.messages :=
  List.filter_cons_of_pos (by simpa using isMessage)

theorem messages_eq_self (quiet : ∀ step ∈ history, step.2.isExpiry = false) :
    history.messages = history :=
  List.filter_eq_self.mpr fun step inside => by simp [quiet step inside]

/-- The ends of waits have no part in the order of versions. -/
theorem keepsOrder_messages_iff {first second : Session}
    (alike : first.documents = second.documents) (history : History) :
    first.KeepsOrder history.messages ↔ second.KeepsOrder history := by
  induction history generalizing first second with
  | nil => exact Iff.rfl
  | cons step later ih =>
      obtain ⟨world, event⟩ := step
      cases isMessage : event.isExpiry with
      | false =>
          have rest := ih (Session.documents_step_congr alike world event)
          simp only [Session.KeepsOrder, messages_cons_of_message isMessage,
            Session.Throughout, alike] at rest ⊢
          rw [rest]
      | true =>
          cases event with
          | expired index =>
              have unchanged : first.documents =
                  (second.step world (.expired index)).1.documents := by
                rw [Session.step_expired_fst, alike]
              simpa [Session.KeepsOrder, Session.Throughout, Event.KeepsOrder, History.messages,
                Event.isExpiry] using ih unchanged
          | opened | changed | saved | closed | settingsChanged | filesChanged => cases isMessage

theorem exists_get?_after_of_open (ordered : session.KeepsOrder history)
    (known : session.documents.get? uri = some document)
    (staysOpen : ∀ step ∈ history, step.2 ≠ .closed uri) :
    ∃ later, (session.after history).documents.get? uri = some later ∧
      document.version ≤ later.version := by
  induction history generalizing session document with
  | nil => exact ⟨document, known, Int.le_refl _⟩
  | cons step rest ih =>
      obtain ⟨world, event⟩ := step
      rw [List.forall_mem_cons] at staysOpen
      rcases Session.get?_step session world event uri with
        ⟨stored, stores, now⟩ | ⟨closes, _⟩ | ⟨_, _, kept⟩
      · obtain ⟨later, found, most⟩ := ih ordered.2 now staysOpen.2
        have less := ordered.1.version_lt stores known
        exact ⟨later, found, by omega⟩
      · exact absurd closes staysOpen.1
      · exact ih ordered.2 (kept.trans known) staysOpen.2

/-- Of two stores of a document with no close in between, the second has the greater version. -/
theorem version_lt_of_open {before middle later : History} {firstWorld secondWorld : World}
    {first second : Event} {old new : Document}
    (ordered : session.KeepsOrder
      (before ++ (firstWorld, first) :: middle ++ (secondWorld, second) :: later))
    (stores : first.stores? = some (uri, old)) (storesAgain : second.stores? = some (uri, new))
    (staysOpen : ∀ step ∈ middle, step.2 ≠ .closed uri) : old.version < new.version := by
  rw [List.append_assoc] at ordered
  obtain ⟨_, _, orderedRest⟩ := (Session.throughout_append ..).mp ordered
  obtain ⟨orderedMiddle, orderedSecond, _⟩ := (Session.throughout_append ..).mp orderedRest
  obtain ⟨known, here, most⟩ := exists_get?_after_of_open orderedMiddle
    (Session.get?_step_of_stores stores) staysOpen
  have less := orderedSecond.version_lt storesAgain here
  omega

end

section

variable {workspace : Workspace} {service : LintService} {history messages : History}

/-- The end of a wait scans something exactly if the document is open, has the version of the check
and is handled. -/
theorem publishes_iff {session : Session} {world : World} {index : Nat} {pending : PendingCheck}
    (found : session.pending[index]? = some pending) :
    (session.step world (.expired index)).2.publications ≠ [] ↔
      session.service.Handles pending.uri ∧ ∃ document,
        session.documents.get? pending.uri = some document ∧
          document.version = pending.version := by
  by_cases current : ∃ document, session.documents.get? pending.uri = some document ∧
      document.version = pending.version
  · obtain ⟨document, known, same⟩ := current
    rw [Session.step_expired_of_current found known same, Session.check_publications,
      ← Session.isSome_markers?_iff world pending.uri pending.text]
    cases session.markers? world pending.uri pending.text <;> simp [known, same]
  · rw [Session.step_expired_of_outdated found fun document known same =>
      current ⟨document, known, same⟩]
    simp [Report.nothing, current]

private theorem order_of_append_eq {first second third fourth : History}
    {left right : World × Event}
    (same : first ++ left :: second = third ++ right :: fourth) :
    left ∈ fourth ∨ left = right ∨
      ∃ middle, third = first ++ left :: middle ∧ second = middle ++ right :: fourth := by
  rcases List.append_eq_append_iff.mp same with ⟨between, rfl, split⟩ | ⟨between, rfl, split⟩
  · cases between with
    | nil => exact Or.inr (Or.inl (List.cons.inj split).1)
    | cons step between =>
        obtain ⟨rfl, rest⟩ := List.cons.inj split
        exact Or.inr (Or.inr ⟨between, rfl, rest⟩)
  · cases between with
    | nil => exact Or.inr (Or.inl (List.cons.inj split).1.symm)
    | cons step between =>
        obtain ⟨rfl, rest⟩ := List.cons.inj split
        exact Or.inl (by simp [rest])

/-- A check whose version is stored holds the text that is stored, unless its document was closed
and has come back to that version. -/
theorem text_eq_or_revives (ordered : (Session.start workspace service).KeepsOrder history)
    {pending : PendingCheck} {document : Document}
    (waits : pending ∈ ((Session.start workspace service).after history).pending)
    (known : ((Session.start workspace service).after history).documents.get? pending.uri =
      some document)
    (current : document.version = pending.version) (handled : service.Handles pending.uri) :
    document.text = pending.text ∨ history.Revives service := by
  obtain ⟨before, changeWorld, texts, rest, made, last⟩ :=
    Session.exists_changed_of_mem_pending_after waits
  obtain ⟨front, world, event, later, stored, stores, untouched⟩ :=
    Session.exists_stores_of_get?_after known
  have changes := Event.stores?_changed last pending.uri pending.version
  rcases order_of_append_eq (made.symm.trans stored) with inside | same | ⟨middle, rfl, rfl⟩
  · exact absurd changes ((untouched _ inside).1 _)
  · obtain ⟨_, rfl⟩ := Prod.mk.inj same
    rw [changes] at stores
    cases stores
    exact Or.inl rfl
  · by_cases reopened : ∃ step ∈ middle, step.2 = .closed pending.uri
    · by_cases sameText : document.text = pending.text
      · exact Or.inl sameText
      · exact Or.inr ⟨before, changeWorld, pending.uri, pending.version, texts, pending.text,
          middle, world, event, document, later, stored, last, reopened, stores, current, sameText,
          handled⟩
    · -- Without a close in between, versions grow from the change to the second store.
      have less := version_lt_of_open (stored ▸ ordered) changes stores
        fun step inside closes => reopened ⟨step, inside, closes⟩
      exact absurd current (Int.ne_of_gt less)

theorem revives_messages (revives : history.Revives service) :
    history.messages.Revives service := by
  obtain ⟨before, changeWorld, uri, version, texts, text, middle, world, event, document, later,
    rfl, last, ⟨step, inside, closes⟩, stores, facts⟩ := revives
  refine ⟨History.messages before, changeWorld, uri, version, texts, text,
    History.messages middle, world, event, document, History.messages later, ?_, last,
    ⟨step, ?_, closes⟩, stores, facts⟩
  · rw [messages_append, messages_append, messages_cons_of_message rfl,
      messages_cons_of_message (Event.isExpiry_of_stores? stores)]
  · exact List.mem_filter.mpr ⟨inside, by simp [closes, Event.isExpiry]⟩

theorem History.Revives.append (revives : history.Revives service) (later : History) :
    History.Revives service (history ++ later) := by
  obtain ⟨before, changeWorld, uri, version, texts, text, middle, world, event, document, rest,
    rfl, facts⟩ := revives
  exact ⟨before, changeWorld, uri, version, texts, text, middle, world, event, document,
    rest ++ later, by simp, facts⟩

/-- Where no document comes back to the version of a change with another text, no end of a wait
scans a text that is not stored. -/
theorem scansStored_of_not_revives (ordered : (Session.start workspace service).KeepsOrder history)
    (never : ¬ history.Revives service) :
    (Session.start workspace service).ScansStored history := by
  induction history using List.reverseRecOn with
  | nil => trivial
  | append_singleton before step ih =>
      obtain ⟨world, event⟩ := step
      have orderedBefore := ((Session.throughout_append ..).mp ordered).1
      have neverBefore : ¬ History.Revives service before := fun revives =>
        never (revives.append _)
      refine (Session.throughout_append ..).mpr ⟨ih orderedBefore neverBefore, ?_, trivial⟩
      cases event with
      | expired index =>
          intro pending found publishes
          obtain ⟨handled, document, known, current⟩ := (publishes_iff found).mp publishes
          rw [(Session.fixed_after ..).1] at handled
          have same := text_eq_or_revives orderedBefore (List.mem_of_getElem? found) known current
            handled
          exact ⟨document, known, same.resolve_right neverBefore⟩
      | opened | changed | saved | closed | settingsChanged | filesChanged => trivial

/-- If a document comes back to the version of a change with another text, the wait of that change
may end right then, and what it scans is not stored. -/
theorem exists_not_scansStored_of_revives (quiet : ∀ step ∈ messages, step.2.isExpiry = false)
    (revives : messages.Revives service) :
    ∃ history, history.messages = messages ∧
      ¬ (Session.start workspace service).ScansStored history := by
  obtain ⟨before, changeWorld, uri, version, texts, text, middle, world, event, document, later,
    rfl, last, _, stores, current, otherText, handled⟩ := revives
  let start := Session.start workspace service
  let change : World × Event := (changeWorld, .changed uri version texts)
  let front := before ++ change :: (middle ++ [(world, event)])
  -- The wait of the change ends as soon as the document is stored again with its version.
  let index := (start.after before).pending.length
  have whole : before ++ change :: middle ++ (world, event) :: later = front ++ later := by
    simp [front]
  rw [whole] at quiet ⊢
  obtain ⟨quietFront, quietLater⟩ := List.forall_mem_append.mp quiet
  refine ⟨front ++ (world, .expired index) :: later, ?_, fun scans => ?_⟩
  · have dropped : History.messages ((world, .expired index) :: later) = later :=
      messages_eq_self quietLater
    rw [messages_append, messages_eq_self quietFront, dropped]
  · obtain ⟨_, scansExpiry, _⟩ := (Session.throughout_append ..).mp scans
    have quietRest := (List.forall_mem_cons.mp (List.forall_mem_append.mp quietFront).2).2
    have waits := Session.pending_getElem?_after_changed (start.after before) changeWorld uri
      version last quietRest
    rw [← Session.after_append] at waits
    have known : (start.after front).documents.get? uri = some document := by
      have atEnd : front = (before ++ change :: middle) ++ [(world, event)] := by simp [front]
      rw [atEnd, Session.after_concat]
      exact Session.get?_step_of_stores stores
    have handledThen : (start.after front).service.Handles uri := by
      rwa [(Session.fixed_after start front).1]
    obtain ⟨stored, same, scanned⟩ := scansExpiry _ waits
      ((publishes_iff waits).mpr ⟨handledThen, document, known, current⟩)
    obtain rfl : stored = document := Option.some.inj (same.symm.trans known)
    exact otherText scanned

/-- Among messages that keep to the order of versions, every placement of the ends of waits scans
only texts that are stored at that moment, exactly if no document that is changed and closed comes
back to the version of the change with another text. -/
theorem scansStored_iff_not_revives (quiet : ∀ step ∈ messages, step.2.isExpiry = false)
    (ordered : (Session.start workspace service).KeepsOrder messages) :
    (∀ history, history.messages = messages →
        (Session.start workspace service).ScansStored history) ↔
      ¬ messages.Revives service := by
  constructor
  · intro always revives
    obtain ⟨history, placed, stale⟩ := exists_not_scansStored_of_revives quiet revives
    exact stale (always history placed)
  · rintro never history rfl
    exact scansStored_of_not_revives ((keepsOrder_messages_iff rfl history).mp ordered)
      fun revives => never (revives_messages revives)

end

private theorem markers?_samplePage :
    (Session.start .initial echoService).markers? emptyWorld samplePage "old" =
      some [⟨⟨0, 0⟩, .warning, none, "HTMLHint", "old"⟩] := by
  simp only [Session.markers?, Session.start, path?_samplePage, Option.bind_some,
    adapterFor?_samplePage, Option.map_some, LintService.scan]
  rfl

/-- Changing an open page once leaves nothing that could be scanned too late. -/
theorem scansStored_one_change :
    let messages : History :=
      [(emptyWorld, .opened samplePage ⟨"first", 1⟩),
        (emptyWorld, .changed samplePage 2 ["second"])]
    (∀ step ∈ messages, step.2.isExpiry = false) ∧
      (Session.start .initial echoService).KeepsOrder messages ∧
      ∀ history : History, history.messages = messages →
        (Session.start .initial echoService).ScansStored history := by
  intro messages
  have quiet : ∀ step ∈ messages, step.2.isExpiry = false := by
    simp [messages, Event.isExpiry]
  have ordered : (Session.start .initial echoService).KeepsOrder messages := by
    simp [messages, Session.KeepsOrder, Session.Throughout, Event.KeepsOrder, Session.step,
      Session.start, Documents.get?_insert]
  refine ⟨quiet, ordered, (scansStored_iff_not_revives quiet ordered).mpr ?_⟩
  rintro ⟨before, _, uri, _, _, _, middle, _, _, _, later, whole, _, ⟨step, inside, closes⟩, _⟩
  have among : step ∈ messages := by
    rw [whole]
    simp [inside]
  simp only [messages, List.mem_cons, List.not_mem_nil, or_false] at among
  rcases among with rfl | rfl <;> cases closes

/-- A page that is changed, closed and opened again with the version of the change is shown what
was found in the text of the change. -/
theorem reopened_page_shows_old_text :
    let messages : History :=
      [(emptyWorld, .opened samplePage ⟨"first", 1⟩),
        (emptyWorld, .changed samplePage 2 ["old"]),
        (emptyWorld, .closed samplePage),
        (emptyWorld, .opened samplePage ⟨"new", 2⟩)]
    let session := (Session.start .initial echoService).after messages
    (Session.start .initial echoService).KeepsOrder messages ∧
      session.documents.get? samplePage = some ⟨"new", 2⟩ ∧
      (session.step emptyWorld (.expired 0)).2.publications =
        [⟨samplePage, [⟨⟨0, 0⟩, .warning, none, "HTMLHint", "old"⟩], some 2⟩] ∧
      ¬ (Session.start .initial echoService).ScansStored
        (messages ++ [(emptyWorld, .expired 0)]) := by
  intro messages session
  have ordered : (Session.start .initial echoService).KeepsOrder messages := by
    simp [messages, Session.KeepsOrder, Session.Throughout, Event.KeepsOrder, Session.step,
      Session.start, Documents.get?_insert, Documents.get?_erase]
  have known : session.documents.get? samplePage = some ⟨"new", 2⟩ := by
    simp [session, messages, Session.after, Session.step, Session.start, Documents.get?_insert]
  have waits : session.pending[0]? = some ⟨samplePage, "old", 2, 300⟩ := by rfl
  have shown : (session.step emptyWorld (.expired 0)).2.publications =
      [⟨samplePage, [⟨⟨0, 0⟩, .warning, none, "HTMLHint", "old"⟩], some 2⟩] := by
    rw [Session.step_expired_of_current waits known rfl, Session.check_publications]
    change (Option.map _ ((Session.start .initial echoService).markers? ..)).toList = _
    rw [markers?_samplePage]
    rfl
  have speaks : (session.step emptyWorld (.expired 0)).2.publications ≠ [] := by
    rw [shown]
    exact List.cons_ne_nil _ _
  refine ⟨ordered, known, shown, fun scans => ?_⟩
  obtain ⟨_, scansExpiry, _⟩ := (Session.throughout_append ..).mp scans
  obtain ⟨document, same, scanned⟩ := scansExpiry _ waits speaks
  obtain rfl : document = ⟨"new", 2⟩ := Option.some.inj (same.symm.trans known)
  exact absurd scanned (by decide)

end MarkupLint.Server

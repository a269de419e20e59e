import MarkupLint.Proofs.Server.Session
import Mathlib.Data.List.Induction

/-!
# Runs of a session

A run takes events one after another, each in the world of its moment.  Whatever a session knows
after a run can be traced back to an event of the run: an open document to the last event that
stored it, and a pending check to the change whose text waits.
-/

namespace MarkupLint.Server

/-- The events of a run, each with the world in which it is taken. -/
abbrev History := List (World × Event)

namespace Session

/-- The session after a run. -/
def after (session : Session) : History → Session
  | [] => session
  | (world, event) :: later => (session.step world event).1.after later

/-- All publications of a run in order. -/
def published (session : Session) : History → List Publication
  | [] => []
  | (world, event) :: later =>
      (session.step world event).2.publications ++ (session.step world event).1.published later

/-- Whether every event of a run meets a condition on the session and the world of its moment. -/
def Throughout (condition : Session → World → Event → Prop) (session : Session) :
    History → Prop
  | [] => True
  | (world, event) :: later =>
      condition session world event ∧ (session.step world event).1.Throughout condition later

variable {session : Session} {workspace : Workspace} {service : LintService}

theorem after_append (session : Session) (first second : History) :
    session.after (first ++ second) = (session.after first).after second := by
  induction first generalizing session with
  | nil => rfl
  | cons step later ih => exact ih (session.step step.1 step.2).1

theorem after_concat (session : Session) (history : History) (world : World) (event : Event) :
    session.after (history ++ [(world, event)]) = ((session.after history).step world event).1 :=
  after_append session history [(world, event)]

theorem published_append (session : Session) (first second : History) :
    session.published (first ++ second) =
      session.published first ++ (session.after first).published second := by
  induction first generalizing session with
  | nil => rfl
  | cons step later ih =>
      simp only [List.cons_append, published, after, ih, List.append_assoc]

theorem published_concat (session : Session) (history : History) (world : World) (event : Event) :
    session.published (history ++ [(world, event)]) =
      session.published history ++ ((session.after history).step world event).2.publications := by
  simp only [published_append, published, List.append_nil]

theorem throughout_append (condition : Session → World → Event → Prop) (session : Session)
    (first second : History) :
    session.Throughout condition (first ++ second) ↔
      session.Throughout condition first ∧
        (session.after first).Throughout condition second := by
  induction first generalizing session with
  | nil => simp [Throughout, after]
  | cons step later ih => simp only [List.cons_append, Throughout, after, ih, and_assoc]

theorem fixed_after (session : Session) (history : History) :
    (session.after history).service = session.service ∧
      (session.after history).workspace.root = session.workspace.root := by
  induction history generalizing session with
  | nil => exact ⟨rfl, rfl⟩
  | cons step later ih =>
      have fixed := fixed_step session step.1 step.2
      have rest := ih (session.step step.1 step.2).1
      exact ⟨rest.1.trans fixed.1, rest.2.trans fixed.2⟩

theorem distinct_after (distinct : session.documents.Distinct) (history : History) :
    (session.after history).documents.Distinct := by
  induction history generalizing session with
  | nil => exact distinct
  | cons step later ih => exact ih (distinct_step distinct step.2)

/-- A document that is open was stored by an event of the run, and neither stored anew nor closed
since. -/
theorem exists_stores_of_get?_after {history : History} {uri : Uri} {document : Document}
    (known : ((start workspace service).after history).documents.get? uri = some document) :
    ∃ before world event later, history = before ++ (world, event) :: later ∧
      event.stores? = some (uri, document) ∧
      ∀ step ∈ later, (∀ other, step.2.stores? ≠ some (uri, other)) ∧ step.2 ≠ .closed uri := by
  induction history using List.reverseRecOn with
  | nil => cases known
  | append_singleton before step ih =>
      obtain ⟨world, event⟩ := step
      rw [after_concat] at known
      rcases get?_step _ world event uri with
        ⟨stored, stores, now⟩ | ⟨_, gone⟩ | ⟨storesNot, open', kept⟩
      · obtain rfl : stored = document := Option.some.inj (now.symm.trans known)
        exact ⟨before, world, event, [], rfl, stores, by simp⟩
      · rw [gone] at known
        cases known
      · obtain ⟨first, firstWorld, firstEvent, later, rfl, stores, last⟩ := ih (kept ▸ known)
        refine ⟨first, firstWorld, firstEvent, later ++ [(world, event)], by simp, stores, ?_⟩
        intro step inside
        rcases List.mem_append.mp inside with here | here
        · exact last step here
        · obtain rfl := List.mem_singleton.mp here
          exact ⟨storesNot, open'⟩

/-- A pending check belongs to a change in the run, with its version and its last text. -/
theorem exists_changed_of_mem_pending_after {history : History} {pending : PendingCheck}
    (waits : pending ∈ ((start workspace service).after history).pending) :
    ∃ before world texts later,
      history = before ++ (world, .changed pending.uri pending.version texts) :: later ∧
        texts.getLast? = some pending.text := by
  induction history using List.reverseRecOn with
  | nil => cases waits
  | append_singleton before step ih =>
      obtain ⟨world, event⟩ := step
      have earlier (already : pending ∈ ((start workspace service).after before).pending) :
          ∃ first firstWorld texts later, before ++ [(world, event)] =
            first ++ (firstWorld, .changed pending.uri pending.version texts) :: later ∧
              texts.getLast? = some pending.text := by
        obtain ⟨first, firstWorld, texts, later, rfl, last⟩ := ih already
        exact ⟨first, firstWorld, texts, later ++ [(world, event)], by simp, last⟩
      rw [after_concat] at waits
      rcases pending_step _ world event with
        ⟨uri, version, texts, text, rfl, last, more⟩ | ⟨index, rfl, less⟩ | ⟨_, same⟩
      · rw [more] at waits
        rcases List.mem_append.mp waits with already | new
        · exact earlier already
        · obtain rfl := List.mem_singleton.mp new
          exact ⟨before, world, texts, [], rfl, last⟩
      · rw [less] at waits
        exact earlier (List.mem_of_mem_eraseIdx waits)
      · exact earlier (same ▸ waits)

/-- While no wait ends, pending checks keep their places. -/
theorem pending_prefix_after (session : Session) {history : History}
    (quiet : ∀ step ∈ history, step.2.isExpiry = false) :
    session.pending <+: (session.after history).pending := by
  induction history generalizing session with
  | nil => exact List.prefix_refl _
  | cons step later ih =>
      obtain ⟨world, event⟩ := step
      rw [List.forall_mem_cons] at quiet
      have rest := ih (session.step world event).1 quiet.2
      rcases pending_step session world event with
        ⟨_, _, _, _, _, _, more⟩ | ⟨_, rfl, _⟩ | ⟨_, same⟩
      · rw [more] at rest
        exact (List.prefix_append _ _).trans rest
      · cases quiet.1
      · rwa [same] at rest

/-- The text of a change waits at the end of the pending checks until some wait ends. -/
theorem pending_getElem?_after_changed (session : Session) (world : World) (uri : Uri)
    (version : Int) {texts : List String} {text : String} (last : texts.getLast? = some text)
    {later : History} (quiet : ∀ step ∈ later, step.2.isExpiry = false) :
    (session.after ((world, .changed uri version texts) :: later)).pending[
        session.pending.length]? =
      some ⟨uri, text, version, session.clock + checkDelay⟩ := by
  have stays := pending_prefix_after (session.step world (.changed uri version texts)).1 quiet
  simp only [step, last] at stays
  obtain ⟨more, whole⟩ := stays
  simp only [after, step, last, ← whole]
  simp

end Session

/-! A page, a world and a service for runs on fixed inputs. -/

/-- A page at the root. -/
def samplePage : Uri := ⟨"file", some .none, "/index.html", none, none⟩

/-- A world without files. -/
def emptyWorld : World := ⟨⟨[], []⟩, []⟩

/-- A service whose engine finds the whole text on the first line. -/
def echoService : LintService :=
  .standard (.shared (.ofFunction "echo" fun text _ =>
    .findings [⟨some 1, 0, text, "warning", none, none, none⟩]))

theorem path?_samplePage : samplePage.path? = some (Path.ofString "/index.html") := by
  decide +kernel

theorem adapterFor?_samplePage :
    echoService.adapterFor? (Path.ofString "/index.html") = some .html := by
  decide +kernel

end MarkupLint.Server

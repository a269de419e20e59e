import MarkupLint.Proofs.Server.Runs

/-!
# What is shown of a document

The host shows of a document what was published last for it.  A check publishes for its own document
only, and a check of all documents leaves each of them with the markers of its stored text.  What the
markers of a text are is told apart from the function that makes them.
-/

namespace MarkupLint.Server

/-- Whether markers show what a scan came to: there is none for a clean document, one for each
diagnostic in their order, and one at the start of the document for a scan that failed. -/
inductive Marker.Shows (source : String) :
    Except LintError (Option ScanResult) → List Marker → Prop
  | clean : Shows source (.ok none) []
  | found {result : ScanResult} {markers : List Marker}
      (each : List.Forall₂ (fun diagnostic marker =>
        marker = ⟨diagnostic.position, diagnostic.severity, diagnostic.ruleId, source,
          diagnostic.message⟩) result.diagnostics markers) :
      Shows source (.ok (some result)) markers
  | failed {error : LintError} :
      Shows source (.error error)
        [⟨⟨0, 0⟩, .error, none, source, source ++ " failed: " ++ error.message⟩]

theorem Marker.shows_ofResult (source : String) (result : Except LintError (Option ScanResult)) :
    Shows source result (ofResult source result) := by
  rcases result with error | _ | result
  · exact .failed
  · exact .clean
  · refine .found ?_
    rw [ofResult, List.forall₂_map_right_iff]
    exact List.forall₂_same.mpr fun _ _ => rfl

/-- The markers that were published last for a document. -/
def lastShown? (publications : List Publication) (uri : Uri) : Option (List Marker) :=
  (publications.filterMap fun publication =>
    if publication.uri = uri then some publication.markers else none).getLast?

variable {session : Session} {world : World}

@[simp] theorem lastShown?_nil (uri : Uri) : lastShown? [] uri = none := rfl

theorem lastShown?_append (first second : List Publication) (uri : Uri) :
    lastShown? (first ++ second) uri = (lastShown? second uri).or (lastShown? first uri) := by
  simp only [lastShown?, List.filterMap_append, List.getLast?_append]

theorem lastShown?_check (uri other : Uri) (text : String) (version : Option Int) :
    lastShown? (session.check world uri text version).publications other =
      if other = uri then session.markers? world uri text else none := by
  rw [Session.check_publications]
  cases session.markers? world uri text with
  | none => simp
  | some markers => by_cases same : other = uri <;> simp [lastShown?, same, eq_comm]

private theorem lastShown?_checks {entries : List (Uri × Document)}
    (distinct : (entries.map Prod.fst).Nodup) (uri : Uri) :
    lastShown? (entries.flatMap fun entry =>
        (session.check world entry.1 entry.2.text (some entry.2.version)).publications) uri =
      (entries.lookup uri).bind fun document => session.markers? world uri document.text := by
  induction entries with
  | nil => rfl
  | cons entry rest ih =>
      obtain ⟨key, known⟩ := entry
      rw [List.map_cons, List.nodup_cons] at distinct
      rw [List.flatMap_cons, lastShown?_append, ih distinct.2, lastShown?_check, List.lookup_cons]
      by_cases same : uri = key
      · subst same
        have absent : rest.lookup uri = none := by
          rw [List.lookup_eq_none_iff]
          intro entry inside
          have apart : uri ≠ entry.1 := by
            rintro rfl
            exact distinct.1 (List.mem_map.mpr ⟨entry, inside, rfl⟩)
          simpa using apart
        simp [absent]
      · simp [same, beq_false_of_ne same]

/-- After a check of all documents each open one is shown the markers of its stored text. -/
theorem lastShown?_checkAll (distinct : session.documents.Distinct) (uri : Uri) :
    lastShown? (session.checkAll world).publications uri =
      (session.documents.get? uri).bind fun document =>
        session.markers? world uri document.text := by
  rw [Session.checkAll_publications]
  exact lastShown?_checks distinct uri

end MarkupLint.Server

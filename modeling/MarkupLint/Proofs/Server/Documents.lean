import MarkupLint.Server.Document
import Mathlib.Data.List.Nodup

/-!
# Looking up open documents

Inserting and erasing change what is known under one identifier and nothing else, and no identifier
ever stands twice among the entries.
-/

namespace MarkupLint.Server.Documents

/-- No identifier stands twice. -/
def Distinct (documents : Documents) : Prop := (documents.entries.map Prod.fst).Nodup

@[simp] theorem get?_empty (uri : Uri) : empty.get? uri = none := rfl

private theorem lookup_entry (key other : Uri) (known : Document)
    (rest : List (Uri × Document)) :
    ((key, known) :: rest).lookup other =
      if other = key then some known else rest.lookup other := by
  rw [List.lookup_cons]
  by_cases same : other = key
  · simp [same]
  · simp [same, beq_false_of_ne same]

private theorem lookup_insertEntry (uri other : Uri) (document : Document)
    (entries : List (Uri × Document)) :
    (insertEntry uri document entries).lookup other =
      if other = uri then some document else entries.lookup other := by
  induction entries with
  | nil => exact lookup_entry uri other document []
  | cons entry rest ih =>
      obtain ⟨key, known⟩ := entry
      by_cases found : key = uri
      · subst found
        simp only [insertEntry, if_true, lookup_entry]
        by_cases same : other = key <;> simp [same]
      · simp only [insertEntry, if_neg found, lookup_entry, ih]
        by_cases same : other = key
        · subst same
          simp [found]
        · simp [same]

theorem get?_insert (documents : Documents) (uri other : Uri) (document : Document) :
    (documents.insert uri document).get? other =
      if other = uri then some document else documents.get? other :=
  lookup_insertEntry uri other document documents.entries

private theorem lookup_filter_ne (uri other : Uri) (entries : List (Uri × Document)) :
    (entries.filter fun entry => entry.1 != uri).lookup other =
      if other = uri then none else entries.lookup other := by
  induction entries with
  | nil => simp
  | cons entry rest ih =>
      obtain ⟨key, known⟩ := entry
      by_cases erased : key = uri
      · subst erased
        simp only [List.filter_cons, bne_self_eq_false, Bool.false_eq_true, if_false, ih,
          lookup_entry]
        by_cases same : other = key <;> simp [same]
      · simp only [List.filter_cons, bne_iff_ne.mpr erased, if_true, lookup_entry, ih]
        by_cases same : other = key
        · subst same
          simp [erased]
        · simp [same]

theorem get?_erase (documents : Documents) (uri other : Uri) :
    (documents.erase uri).get? other = if other = uri then none else documents.get? other :=
  lookup_filter_ne uri other documents.entries

private theorem mem_keys_insertEntry {uri other : Uri} {document : Document}
    {entries : List (Uri × Document)}
    (inside : other ∈ (insertEntry uri document entries).map Prod.fst) :
    other = uri ∨ other ∈ entries.map Prod.fst := by
  induction entries with
  | nil => simpa [insertEntry] using inside
  | cons entry rest ih =>
      obtain ⟨key, known⟩ := entry
      by_cases found : key = uri
      · rw [insertEntry, if_pos found] at inside
        simp only [List.map_cons, List.mem_cons] at inside ⊢
        exact inside.imp_right Or.inr
      · rw [insertEntry, if_neg found] at inside
        simp only [List.map_cons, List.mem_cons] at inside ⊢
        rcases inside with same | later
        · exact Or.inr (Or.inl same)
        · exact (ih later).imp_right Or.inr

theorem distinct_empty : empty.Distinct := List.nodup_nil

theorem Distinct.insert {documents : Documents} (distinct : documents.Distinct) (uri : Uri)
    (document : Document) : (documents.insert uri document).Distinct := by
  obtain ⟨entries⟩ := documents
  unfold Distinct Documents.insert at *
  induction entries with
  | nil => simp [insertEntry]
  | cons entry rest ih =>
      obtain ⟨key, known⟩ := entry
      simp only [List.map_cons, List.nodup_cons] at distinct
      by_cases found : key = uri
      · subst found
        simpa [insertEntry] using distinct
      · rw [insertEntry, if_neg found, List.map_cons, List.nodup_cons]
        refine ⟨fun again => ?_, ih distinct.2⟩
        exact (mem_keys_insertEntry again).elim found distinct.1

theorem Distinct.erase {documents : Documents} (distinct : documents.Distinct) (uri : Uri) :
    (documents.erase uri).Distinct :=
  distinct.sublist (List.filter_sublist.map Prod.fst)

end MarkupLint.Server.Documents

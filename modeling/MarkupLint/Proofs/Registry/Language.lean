import MarkupLint.Proofs.Registry.Changes
import MarkupLint.Proofs.Text.LetterCase

/-!
# The language of a path

A path belongs to the first language that lists its file name.  Only if no language does, it belongs
to the first one that lists its extension in lower case.  So a file name counts before every
extension, and the case of an extension makes no difference to paths that are not known by name.

Together with what a history of changes leaves behind, this makes the answers of a registry a
function of its history.
-/

namespace MarkupLint

namespace Language

/-- Whether a language lists the last component of a path. -/
def ListsName (language : Language) (path : Path) : Prop :=
  ∃ name ∈ language.fileNames, path.fileName? = some (Octets.ofString name)

/-- Whether a language lists the extension of a path in lower case. -/
def ListsExtension (language : Language) (path : Path) : Prop :=
  ∃ extension ∈ language.extensions, path.HasExtension extension

end Language

namespace LanguageRegistry

/-- A language of a list has a property, and none of those before it does. -/
def IsFirst (property : Language → Prop) (languages : List Language) (language : Language) : Prop :=
  ∃ before later, languages = before ++ language :: later ∧ property language ∧
    ∀ other ∈ before, ¬ property other

/-- What a registry has to answer when it is asked for the language of a path. -/
inductive IsLanguageOf (registry : LanguageRegistry) (path : Path) : Option String → Prop
  | byName {language : Language}
      (first : IsFirst (·.ListsName path) registry.languages language) :
      IsLanguageOf registry path (some language.id)
  | byExtension {language : Language}
      (unnamed : ∀ other ∈ registry.languages, ¬ other.ListsName path)
      (first : IsFirst (·.ListsExtension path) registry.languages language) :
      IsLanguageOf registry path (some language.id)
  | unknown
      (unnamed : ∀ other ∈ registry.languages, ¬ other.ListsName path)
      (unlisted : ∀ other ∈ registry.languages, ¬ other.ListsExtension path) :
      IsLanguageOf registry path none

section Lookup

variable {languages : List Language} {listed : Language → List String} {sought : Option String}

theorem bind_find?_eq_some_iff {language : Language} :
    (sought.bind fun text => languages.find? fun other => (listed other).contains text) =
        some language ↔
      IsFirst (fun other => ∃ text ∈ listed other, sought = some text) languages language := by
  cases sought with
  | none => simp [IsFirst]
  | some text =>
      rw [Option.bind_some, List.find?_eq_some_iff_append, IsFirst]
      constructor
      · rintro ⟨lists, before, later, split, others⟩
        refine ⟨before, later, split, ?_, ?_⟩
        · exact ⟨text, List.contains_iff_mem.mp lists, rfl⟩
        · rintro other inside ⟨_, listsToo, ⟨⟩⟩
          simpa [listsToo] using others other inside
      · rintro ⟨before, later, split, ⟨_, lists, ⟨⟩⟩, others⟩
        refine ⟨List.contains_iff_mem.mpr lists, before, later, split, ?_⟩
        intro other inside
        have lacks : text ∉ listed other := fun listsToo => others other inside ⟨_, listsToo, rfl⟩
        simpa using lacks

theorem bind_find?_eq_none_iff :
    (sought.bind fun text => languages.find? fun other => (listed other).contains text) = none ↔
      ∀ other ∈ languages, ¬ ∃ text ∈ listed other, sought = some text := by
  cases sought with
  | none => simp
  | some text =>
      rw [Option.bind_some, List.find?_eq_none]
      constructor
      · rintro lacking other inside ⟨_, lists, ⟨⟩⟩
        exact lacking other inside (List.contains_iff_mem.mpr lists)
      · intro lacking other inside lists
        exact lacking other inside ⟨text, List.contains_iff_mem.mp lists, rfl⟩

end Lookup

/-- The language that a path is known by name for. -/
def named? (registry : LanguageRegistry) (path : Path) : Option Language :=
  (path.fileName?.bind Utf8.decode?).bind registry.byFileName?

/-- The language that lists the extension of a path. -/
def extended? (registry : LanguageRegistry) (path : Path) : Option Language :=
  ((path.extension?.bind Utf8.decode?).map Language.lowerAscii).bind registry.byExtension?

variable {registry : LanguageRegistry} {path : Path} {language : Language}

theorem languageFor?_eq (registry : LanguageRegistry) (path : Path) :
    registry.languageFor? path =
      ((registry.named? path).or (registry.extended? path)).map Language.id := by
  simp only [languageFor?, named?, extended?]
  split
  · next named => rw [named, Option.some_or, Option.map_some]
  · next unnamed => rw [unnamed, Option.none_or]

theorem listsName_iff :
    language.ListsName path ↔
      ∃ name ∈ language.fileNames, path.fileName?.bind Utf8.decode? = some name := by
  simp only [Language.ListsName, Option.bind_eq_some_iff, Utf8.decode?_eq_some_iff,
    exists_eq_right]

theorem listsExtension_iff :
    language.ListsExtension path ↔
      ∃ extension ∈ language.extensions,
        (path.extension?.bind Utf8.decode?).map Language.lowerAscii = some extension := by
  simp only [Language.ListsExtension, Path.hasExtension_iff]

theorem named?_eq_some_iff :
    registry.named? path = some language ↔
      IsFirst (·.ListsName path) registry.languages language := by
  simp only [listsName_iff]
  exact bind_find?_eq_some_iff

theorem named?_eq_none_iff :
    registry.named? path = none ↔ ∀ other ∈ registry.languages, ¬ other.ListsName path := by
  simp only [listsName_iff]
  exact bind_find?_eq_none_iff

theorem extended?_eq_some_iff :
    registry.extended? path = some language ↔
      IsFirst (·.ListsExtension path) registry.languages language := by
  simp only [listsExtension_iff]
  exact bind_find?_eq_some_iff

theorem extended?_eq_none_iff :
    registry.extended? path = none ↔
      ∀ other ∈ registry.languages, ¬ other.ListsExtension path := by
  simp only [listsExtension_iff]
  exact bind_find?_eq_none_iff

/-- A registry answers as it has to, and gives no other answer. -/
theorem languageFor?_eq_iff {answer : Option String} :
    registry.languageFor? path = answer ↔ IsLanguageOf registry path answer := by
  rw [languageFor?_eq]
  constructor
  · rintro rfl
    cases named : registry.named? path with
    | some language => exact .byName (named?_eq_some_iff.mp named)
    | none =>
        have unnamed := named?_eq_none_iff.mp named
        cases extended : registry.extended? path with
        | some language => exact .byExtension unnamed (extended?_eq_some_iff.mp extended)
        | none => exact .unknown unnamed (extended?_eq_none_iff.mp extended)
  · intro answers
    cases answers with
    | byName first =>
        rw [named?_eq_some_iff.mpr first, Option.some_or, Option.map_some]
    | byExtension unnamed first =>
        rw [named?_eq_none_iff.mpr unnamed, extended?_eq_some_iff.mpr first, Option.none_or,
          Option.map_some]
    | unknown unnamed unlisted =>
        rw [named?_eq_none_iff.mpr unnamed, extended?_eq_none_iff.mpr unlisted, Option.none_or,
          Option.map_none]

/-- The extensions of two paths differ at most in the case of ASCII letters. -/
def SameExtension (first second : Path) : Prop :=
  first.extension?.map (·.map lowerOctet) = second.extension?.map (·.map lowerOctet)

theorem extended?_eq (registry : LanguageRegistry) (path : Path) :
    registry.extended? path =
      ((path.extension?.map (·.map lowerOctet)).bind Utf8.decode?).bind
        registry.byExtension? := by
  rw [extended?]
  congr 1
  cases path.extension? with
  | none => rfl
  | some extension => exact (decode?_map_lowerOctet extension).symm

theorem languageFor?_eq_of_sameExtension {first second : Path}
    (alike : SameExtension first second)
    (unnamed : ∀ other ∈ registry.languages, ¬ other.ListsName first ∧ ¬ other.ListsName second) :
    registry.languageFor? first = registry.languageFor? second := by
  have firstUnnamed := named?_eq_none_iff.mpr fun other inside => (unnamed other inside).1
  have secondUnnamed := named?_eq_none_iff.mpr fun other inside => (unnamed other inside).2
  have extended : registry.extended? first = registry.extended? second := by
    rw [extended?_eq, extended?_eq, alike]
  rw [languageFor?_eq, languageFor?_eq, firstUnnamed, secondUnnamed, extended]

/-- What a history of changes to the empty registry leaves behind. -/
structure Reflects (registry : LanguageRegistry) (history : List Change) : Prop where
  distinct : registry.ids.Nodup
  /-- The ids stand in the order of their latest definitions. -/
  ids_eq : registry.ids = (definedIds history).dedup
  /-- A language is its latest definition with the names that were added since. -/
  latest : ∀ before id extensions names later,
    history = before ++ .define id extensions names :: later → id ∉ definedIds later →
    registry.get? id = some ⟨id, extensions.map Language.lowerAscii,
      names ++ ((namesFor id later).filter (· ∉ names)).eraseDups⟩
  undefined : ∀ id ∉ definedIds history, registry.get? id = none ∧
    ∀ names, registry.addFileNames id names = registry
  tells : ∀ id names,
    (registry.containsThenAddFileNames id names).1 = true ↔ id ∈ definedIds history
  answers : ∀ path answer, registry.languageFor? path = answer ↔ IsLanguageOf registry path answer
  /-- The case of extensions makes no difference to paths that are not known by name. -/
  alike : ∀ first second, SameExtension first second →
    (∀ other ∈ registry.languages, ¬ other.ListsName first ∧ ¬ other.ListsName second) →
    registry.languageFor? first = registry.languageFor? second

theorem reflects_after (history : List Change) : Reflects (empty.after history) history := by
  have ids := ids_after history
  refine ⟨?_, ids, ?_, ?_, ?_, fun _ _ => languageFor?_eq_iff,
    fun _ _ => languageFor?_eq_of_sameExtension⟩
  · rw [ids]
    exact List.nodup_dedup _
  · rintro before id extensions names later rfl undisturbed
    have defined : ((empty.after before).step (.define id extensions names)).get? id =
        some ⟨id, extensions.map Language.lowerAscii, names⟩ := get?_define_self ..
    rw [after_append]
    refine (get?_after undisturbed).trans ?_
    rw [defined, Option.map_some, Language.addFileNames_eq]
  · intro id undefined
    have absent : (empty.after history).get? id = none := by
      rw [get?_eq_none_iff, ids, List.mem_dedup]
      exact undefined
    exact ⟨absent, addFileNames_of_absent absent⟩
  · intro id names
    rw [containsThenAddFileNames_fst, ids, List.mem_dedup]

/-- Whether it started empty or as the standard one, a registry is a function of the changes made to
it: its ids are distinct and in the order of their latest definitions, each language is its latest
definition with the names added since, and a path belongs to the first language that lists its name
or else to the first one that lists its extension, in any case of the letters. -/
theorem registry_reflects_history (history : List Change) :
    Reflects (empty.after history) history ∧
      Reflects (standard.after history) (standardHistory ++ history) := by
  refine ⟨reflects_after history, ?_⟩
  rw [← after_standardHistory, ← after_append]
  exact reflects_after (standardHistory ++ history)

/-- A language is redefined after a name was added to it, and another name is added twice. -/
theorem registry_reflects_history_redefined :
    let later : List Change := [.addFileNames "html" ["main", "main"]]
    let registry := standard.after
      (.addFileNames "html" ["page"] :: .define "html" ["page"] ["index"] :: later)
    registry.get? "html" =
        some ⟨"html", ["page"].map Language.lowerAscii, ["index", "main"]⟩ ∧
      (∀ names, registry.addFileNames "css" names = registry) ∧
      (registry.containsThenAddFileNames "html" []).1 = true ∧
      (registry.containsThenAddFileNames "css" []).1 = false ∧
      registry.languageFor? (Path.ofString "a/b.PAGE") =
        registry.languageFor? (Path.ofString "c.page") := by
  intro later registry
  have reflects := (registry_reflects_history
    (.addFileNames "html" ["page"] :: .define "html" ["page"] ["index"] :: later)).2
  have unnamed (path : Path) (lookup : registry.named? path = none) :
      ∀ other ∈ registry.languages, ¬ other.ListsName path := named?_eq_none_iff.mp lookup
  have alike : SameExtension (Path.ofString "a/b.PAGE") (Path.ofString "c.page") := by
    unfold SameExtension
    decide
  refine ⟨?_, (reflects.undefined "css" (by decide)).2, (reflects.tells "html" []).mpr (by decide),
    Bool.eq_false_iff.mpr (mt (reflects.tells "css" []).mp (by decide)), ?_⟩
  · exact reflects.latest (standardHistory ++ [.addFileNames "html" ["page"]]) "html" ["page"]
      ["index"] later rfl (by decide)
  · refine reflects.alike _ _ alike fun other inside => ⟨?_, ?_⟩
    · exact unnamed _ (by decide +kernel) other inside
    · exact unnamed _ (by decide +kernel) other inside

/-- A file name counts before the extension of a language, and a redefined language loses its
former extensions. -/
example :
    let history : List Change := [.addFileNames "xml" ["a.xhtml"], .define "html" ["XHTML"] []]
    (standard.after history).languageFor? (Path.ofString "p/a.xhtml") = some "xml" ∧
      (standard.after history).languageFor? (Path.ofString "p/b.html") = none := by
  decide +kernel

end LanguageRegistry

end MarkupLint

import MarkupLint.Proofs.Service
import Mathlib.Data.List.Dedup
import Mathlib.Data.List.Induction

/-!
# Languages after a history of changes

A registry is changed by defining languages and by adding file names to them.  What it knows
afterwards is read off the history of changes: the ids stand in the order of their latest
definitions, and a language is its latest definition together with the names that were added to it
since.  Nothing of a former definition remains.
-/

namespace MarkupLint

namespace Language

theorem addFileNames_nil (language : Language) : language.addFileNames [] = language := rfl

theorem addFileNames_append (language : Language) (first second : List String) :
    language.addFileNames (first ++ second) =
      (language.addFileNames first).addFileNames second := by
  simp only [addFileNames, List.foldl_append]

/-- The new names come after the known ones, each where it was first added. -/
theorem foldl_unlessKnown (known names : List String) :
    names.foldl (fun known name => if known.contains name then known else known ++ [name]) known =
      known ++ (names.filter (· ∉ known)).eraseDups := by
  induction names generalizing known with
  | nil => simp
  | cons name rest ih =>
      rw [List.foldl_cons]
      by_cases present : name ∈ known
      · rw [if_pos (List.contains_iff_mem.mpr present), ih, List.filter_cons_of_neg (by simpa)]
      · have others : rest.filter (· ∉ known ++ [name]) =
            (rest.filter (· ∉ known)).filter (fun other => !other == name) := by
          rw [List.filter_filter]
          apply List.filter_congr
          intro other _
          by_cases same : other = name <;> simp [same]
        rw [if_neg (by simpa using present), ih, others, List.filter_cons_of_pos (by simpa),
          List.eraseDups_cons, List.append_assoc, List.singleton_append]

theorem addFileNames_eq (language : Language) (names : List String) :
    language.addFileNames names =
      { language with
        fileNames := language.fileNames ++
          (names.filter (· ∉ language.fileNames)).eraseDups } := by
  rw [addFileNames, foldl_unlessKnown]

theorem addFileNames_id (language : Language) (names : List String) :
    (language.addFileNames names).id = language.id := rfl

end Language

namespace LanguageRegistry

/-- What can be done with a registry. -/
inductive Change where
  | define (id : String) (extensions fileNames : List String)
  | addFileNames (id : String) (names : List String)

namespace Change

/-- The id of the language that is defined. -/
def definedId? : Change → Option String
  | .define id _ _ => some id
  | .addFileNames _ _ => none

/-- The file names that are added to a language. -/
def namesFor (id : String) : Change → List String
  | .define _ _ _ => []
  | .addFileNames other names => if other = id then names else []

end Change

def step (registry : LanguageRegistry) : Change → LanguageRegistry
  | .define id extensions fileNames =>
      registry.define { Language.ofExtensions id extensions with fileNames }
  | .addFileNames id names => registry.addFileNames id names

def after (registry : LanguageRegistry) (history : List Change) : LanguageRegistry :=
  history.foldl step registry

/-- The ids of a registry in the order in which their languages are asked. -/
def ids (registry : LanguageRegistry) : List String := registry.languages.map Language.id

/-- The ids that a history defines, one for each definition. -/
def definedIds (history : List Change) : List String := history.filterMap Change.definedId?

/-- The file names that a history adds to a language. -/
def namesFor (id : String) (history : List Change) : List String :=
  history.flatMap (Change.namesFor id)

/-- How the standard registry came about. -/
def standardHistory : List Change :=
  [.define "html" ["html", "htm"] [], .define "xml" ["xml"] [], .define "json" ["json"] [],
    .addFileNames "json" [RcFile.htmlHint.fileName, RcFile.xmlHint.fileName]]

theorem after_standardHistory : empty.after standardHistory = standard := rfl

variable {registry : LanguageRegistry} {history : List Change} {change : Change} {id : String}

theorem after_append (registry : LanguageRegistry) (first second : List Change) :
    registry.after (first ++ second) = (registry.after first).after second :=
  List.foldl_append

section FirstWithId

variable {keep : Language → Language} {languages : List Language}

theorem map_id_modifyFirst (kept : ∀ language, (keep language).id = language.id) :
    (modifyFirst id keep languages).map Language.id = languages.map Language.id := by
  induction languages with
  | nil => rfl
  | cons language rest ih =>
      rw [modifyFirst]
      split
      · simp [kept]
      · simp [ih]

theorem find?_modifyFirst (kept : ∀ language, (keep language).id = language.id) (other : String) :
    (modifyFirst id keep languages).find? (fun language => language.id == other) =
      (languages.find? fun language => language.id == other).map
        fun language => if other = id then keep language else language := by
  induction languages with
  | nil => rfl
  | cons language rest ih =>
      rw [modifyFirst]
      by_cases named : language.id = id
      · rw [if_pos named]
        by_cases sought : language.id = other
        · have same : other = id := sought.symm.trans named
          simp [kept, sought, same]
        · have differ : other ≠ id := fun same => sought (named.trans same.symm)
          simp [kept, sought, differ]
      · rw [if_neg named]
        by_cases sought : language.id = other
        · have differ : other ≠ id := fun same => named (sought.trans same)
          simp [sought, differ]
        · simp [sought, ih]

theorem modifyFirst_of_absent (absent : id ∉ languages.map Language.id) :
    modifyFirst id keep languages = languages := by
  induction languages with
  | nil => rfl
  | cons language rest ih =>
      rw [List.map_cons, List.mem_cons, not_or] at absent
      rw [modifyFirst, if_neg (Ne.symm absent.1), ih absent.2]

end FirstWithId

section Steps

theorem ids_define (registry : LanguageRegistry) (language : Language) :
    (registry.define language).ids = registry.ids.filter (· != language.id) ++ [language.id] := by
  simp [ids, define, List.filter_map, Function.comp_def]

theorem ids_addFileNames (registry : LanguageRegistry) (id : String) (names : List String) :
    (registry.addFileNames id names).ids = registry.ids :=
  map_id_modifyFirst fun language => language.addFileNames_id names

theorem get?_eq_none_iff : registry.get? id = none ↔ id ∉ registry.ids := by
  simp [get?, ids]

theorem get?_define_self (registry : LanguageRegistry) (language : Language) :
    (registry.define language).get? language.id = some language := by
  have gone : (registry.languages.filter fun other => other.id != language.id).find?
      (fun other => other.id == language.id) = none := by
    simp
  rw [get?, define, List.find?_append, gone]
  simp

theorem get?_define_of_ne {language : Language} (differ : language.id ≠ id) :
    (registry.define language).get? id = registry.get? id := by
  have kept : (registry.languages.filter fun other => other.id != language.id).find?
      (fun other => other.id == id) = registry.languages.find? (fun other => other.id == id) := by
    rw [List.find?_filter]
    congr 1
    funext other
    by_cases sought : other.id = id
    · simp [sought, Ne.symm differ]
    · simp [sought]
  rw [get?, define, List.find?_append, kept]
  simp [get?, differ]

theorem get?_addFileNames (registry : LanguageRegistry) (id : String) (names : List String)
    (other : String) :
    (registry.addFileNames id names).get? other =
      (registry.get? other).map
        fun language => if other = id then language.addFileNames names else language :=
  find?_modifyFirst (fun language => language.addFileNames_id names) other

/-- Adding names to a language that is not there changes nothing. -/
theorem addFileNames_of_absent (absent : registry.get? id = none) (names : List String) :
    registry.addFileNames id names = registry := by
  rw [addFileNames, containsThenAddFileNames,
    modifyFirst_of_absent (get?_eq_none_iff.mp absent)]

/-- Whoever adds names is told whether there is a language to add them to. -/
theorem containsThenAddFileNames_fst (registry : LanguageRegistry) (id : String)
    (names : List String) :
    (registry.containsThenAddFileNames id names).1 = true ↔ id ∈ registry.ids := by
  rw [containsThenAddFileNames, ← not_iff_not, ← get?_eq_none_iff, Bool.not_eq_true,
    Option.isSome_eq_false_iff, Option.isNone_iff_eq_none]

theorem get?_step (others : change.definedId? ≠ some id) :
    (registry.step change).get? id =
      (registry.get? id).map fun language => language.addFileNames (change.namesFor id) := by
  cases change with
  | define other extensions fileNames =>
      have differ : other ≠ id := fun same => others (congrArg some same)
      simpa [step, Change.namesFor, Language.addFileNames_nil] using get?_define_of_ne differ
  | addFileNames other names =>
      simp only [step, get?_addFileNames, Change.namesFor]
      by_cases same : other = id
      · simp [same]
      · simp [same, Ne.symm same, Language.addFileNames_nil]

end Steps

theorem definedIds_append (first second : List Change) :
    definedIds (first ++ second) = definedIds first ++ definedIds second :=
  List.filterMap_append

/-- As long as a language is not defined again, names are added to it and nothing else. -/
theorem get?_after (others : id ∉ definedIds history) :
    (registry.after history).get? id =
      (registry.get? id).map fun language => language.addFileNames (namesFor id history) := by
  induction history generalizing registry with
  | nil => simp [after, namesFor, Language.addFileNames_nil]
  | cons change later ih =>
      have now : change.definedId? ≠ some id := by
        intro defines
        exact others (List.mem_filterMap.mpr ⟨change, List.mem_cons_self, defines⟩)
      have rest : id ∉ definedIds later := by
        intro inside
        rw [← List.singleton_append, definedIds_append] at others
        exact others (List.mem_append_right _ inside)
      calc ((registry.step change).after later).get? id
          = ((registry.step change).get? id).map
              fun language => language.addFileNames (namesFor id later) := ih rest
        _ = (registry.get? id).map fun language =>
              (language.addFileNames (change.namesFor id)).addFileNames (namesFor id later) := by
            rw [get?_step now, Option.map_map, Function.comp_def]
        _ = _ := by simp only [namesFor, List.flatMap_cons, Language.addFileNames_append]

/-- Of a repeated id only the last occurrence stays. -/
theorem dedup_concat (names : List String) (last : String) :
    (names ++ [last]).dedup = names.dedup.filter (· != last) ++ [last] := by
  induction names with
  | nil => simp
  | cons name rest ih =>
      by_cases again : name ∈ rest ++ [last]
      · rw [List.cons_append, List.dedup_cons_of_mem again, ih]
        by_cases inside : name ∈ rest
        · rw [List.dedup_cons_of_mem inside]
        · have same : name = last := by simpa [inside] using again
          rw [List.dedup_cons_of_notMem inside, List.filter_cons_of_neg (by simp [same])]
      · rw [List.mem_append, not_or, List.mem_singleton] at again
        rw [List.cons_append, List.dedup_cons_of_notMem (by simp [again]), ih,
          List.dedup_cons_of_notMem again.1, List.filter_cons_of_pos (by simp [again.2]),
          List.cons_append]

theorem ids_after (history : List Change) :
    (empty.after history).ids = (definedIds history).dedup := by
  -- From the end, since a definition moves its id to the end.
  induction history using List.reverseRecOn with
  | nil => rfl
  | append_singleton before change ih =>
      rw [after_append, definedIds_append]
      cases change with
      | define id extensions fileNames =>
          have latest := ids_define (empty.after before)
            { Language.ofExtensions id extensions with fileNames }
          rw [ih] at latest
          exact latest.trans (dedup_concat (definedIds before) id).symm
      | addFileNames id names =>
          have same := ids_addFileNames (empty.after before) id names
          have defines : definedIds [Change.addFileNames id names] = [] := rfl
          rw [defines, List.append_nil, ← ih]
          exact same

end LanguageRegistry

end MarkupLint

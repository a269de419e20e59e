import MarkupLint.RcFile
/-!
# Languages

A language is known by its file extensions and by exact file names, which win over extensions.
Defining a language again moves it to the end of the order in which languages are asked.
-/

namespace MarkupLint

/-- A language of documents. -/
structure Language where
  id : String
  extensions : List String
  fileNames : List String
deriving DecidableEq, Repr

namespace Language

/-- A text with its ASCII letters in lower case. -/
def lowerAscii (text : String) : String := text.map Char.toLower

/-- A language with extensions in any case and no file names. -/
def ofExtensions (id : String) (extensions : List String) : Language :=
  ⟨id, extensions.map lowerAscii, []⟩

/-- Add the file names that are not there yet. -/
def addFileNames (language : Language) (names : List String) : Language :=
  { language with
    fileNames := names.foldl
      (fun known name => if known.contains name then known else known ++ [name])
      language.fileNames }

end Language

/-- The known languages in the order in which they are asked. -/
structure LanguageRegistry where
  languages : List Language
deriving DecidableEq, Repr

namespace LanguageRegistry

/-- The registry of no languages. -/
def empty : LanguageRegistry := ⟨[]⟩

/-- Add a language at the end in place of any with the same id. -/
def define (registry : LanguageRegistry) (language : Language) : LanguageRegistry :=
  ⟨registry.languages.filter (fun other => other.id != language.id) ++ [language]⟩

/-- The language with an id. -/
def get? (registry : LanguageRegistry) (id : String) : Option Language :=
  registry.languages.find? fun language => language.id == id

/-- Replace the first language with an id by its image. -/
def modifyFirst (id : String) (change : Language → Language) : List Language → List Language
  | [] => []
  | language :: rest =>
      if language.id = id then change language :: rest
      else language :: modifyFirst id change rest

/-- Add file names to the language with an id, and tell whether there is one; without one nothing
changes. -/
def containsThenAddFileNames (registry : LanguageRegistry) (id : String) (names : List String) :
    Bool × LanguageRegistry :=
  ((registry.get? id).isSome, ⟨modifyFirst id (·.addFileNames names) registry.languages⟩)

/-- Add file names to the language with an id, if there is one. -/
def addFileNames (registry : LanguageRegistry) (id : String) (names : List String) :
    LanguageRegistry :=
  (registry.containsThenAddFileNames id names).2

/-- The first language that has a file name. -/
def byFileName? (registry : LanguageRegistry) (name : String) : Option Language :=
  registry.languages.find? fun language => language.fileNames.contains name

/-- The first language that has an extension, given in lower case. -/
def byExtension? (registry : LanguageRegistry) (extension : String) : Option Language :=
  registry.languages.find? fun language => language.extensions.contains extension

/-- The id of the language of a path. Names that are not text match nothing. -/
def languageFor? (registry : LanguageRegistry) (path : Path) : Option String :=
  let named := (path.fileName?.bind Utf8.decode?).bind registry.byFileName?
  match named with
  | some language => some language.id
  | none =>
      let extension := (path.extension?.bind Utf8.decode?).map Language.lowerAscii
      (extension.bind registry.byExtension?).map Language.id

/-- HTML, XML and JSON, with the rc files of the first two as JSON documents. -/
def standard : LanguageRegistry :=
  let registry := ((empty.define (.ofExtensions "html" ["html", "htm"])).define
    (.ofExtensions "xml" ["xml"])).define (.ofExtensions "json" ["json"])
  registry.addFileNames "json" [RcFile.htmlHint.fileName, RcFile.xmlHint.fileName]

end LanguageRegistry

end MarkupLint

import MarkupLint.LintError
import MarkupLint.Json.Reader
import MarkupLint.World
/-!
# Preferences

Each of four namespaces holds an options value. A value is replaced as a whole, and every
replacement, even by an equal value, advances the version of its namespace. Settings documents
state options either under a flat key such as `htmlhint.options` or under `options` in a section
of the namespace's name; the flat key wins.
-/

namespace MarkupLint

/-- A namespace of preferences. -/
inductive Namespace where
  | htmlHint
  | xmlHint
  | cssLint
  | jsHint
deriving DecidableEq, Repr

namespace Namespace

/-- All namespaces in their order. -/
def all : List Namespace := [.htmlHint, .xmlHint, .cssLint, .jsHint]

/-- The name in settings documents. -/
def name : Namespace → String
  | .htmlHint => "htmlhint"
  | .xmlHint => "xmlhint"
  | .cssLint => "csslint"
  | .jsHint => "jshint"

/-- The namespace with a name. -/
def ofName? (name : String) : Option Namespace :=
  all.find? fun candidate => candidate.name = name

/-- The key of the options in a section. -/
def optionsKey : String := "options"

/-- The flat key of the options. -/
def flatKey (selected : Namespace) : String := selected.name ++ "." ++ optionsKey

/-- The options that hold until others are stated. -/
def builtinOptions : Namespace → Json
  | .xmlHint => .object [("doctype-first", .bool false)]
  | _ => .object []

end Namespace

/-- The options of a namespace and how often they have been replaced. -/
structure Channel where
  value : Json
  version : Nat
deriving DecidableEq, Repr

/-- The preferences of all namespaces. -/
structure PreferenceStore where
  html : Channel
  xml : Channel
  css : Channel
  js : Channel
deriving DecidableEq, Repr

namespace PreferenceStore

/-- The store that holds the built-in options. -/
def builtin : PreferenceStore where
  html := ⟨Namespace.htmlHint.builtinOptions, 0⟩
  xml := ⟨Namespace.xmlHint.builtinOptions, 0⟩
  css := ⟨Namespace.cssLint.builtinOptions, 0⟩
  js := ⟨Namespace.jsHint.builtinOptions, 0⟩

instance : Inhabited PreferenceStore := ⟨builtin⟩

/-- The channel of a namespace. -/
def channel (store : PreferenceStore) : Namespace → Channel
  | .htmlHint => store.html
  | .xmlHint => store.xml
  | .cssLint => store.css
  | .jsHint => store.js

/-- The store with another channel for a namespace. -/
def withChannel (store : PreferenceStore) (selected : Namespace) (channel : Channel) :
    PreferenceStore :=
  match selected with
  | .htmlHint => { store with html := channel }
  | .xmlHint => { store with xml := channel }
  | .cssLint => { store with css := channel }
  | .jsHint => { store with js := channel }

/-- The options of a namespace. -/
def get (store : PreferenceStore) (selected : Namespace) : Json := (store.channel selected).value

/-- Replace the options of a namespace; null restores the built-in ones. -/
def set (store : PreferenceStore) (selected : Namespace) (options : Json) : PreferenceStore :=
  let value := if options.isNull then selected.builtinOptions else options
  store.withChannel selected ⟨value, (store.channel selected).version + 1⟩

/-- The options that a settings document states for a namespace. -/
def stated? (settings : Json.Members) (selected : Namespace) : Option Json :=
  match settings.lookup selected.flatKey with
  | some options => some options
  | none => (settings.lookup selected.name).bind (Json.get? Namespace.optionsKey)

/-- Replace the options that a settings document states, and tell for which namespaces it states
any. -/
def applyMembers (store : PreferenceStore) (settings : Json.Members) :
    PreferenceStore × List Namespace :=
  let stated := Namespace.all.filterMap fun selected =>
    (stated? settings selected).map (selected, ·)
  (stated.foldl (fun store (selected, options) => store.set selected options) store,
    stated.map Prod.fst)

/-- Apply a settings document, which must be an object. -/
def apply (store : PreferenceStore) (settings : Json) :
    Except LintError (PreferenceStore × List Namespace) :=
  match settings with
  | .object members => .ok (store.applyMembers members)
  | other => .error (.preferences (.notObject other.kindName))

/-- A new store with the settings of a document text. -/
def ofText (text : String) : Except LintError PreferenceStore :=
  match Json.parse text with
  | .error error => .error (.preferences (.notJson error))
  | .ok settings => (builtin.apply settings).map Prod.fst

/-- A new store with the settings of a file. -/
def load (files : FileTree) (path : Path) : Except LintError PreferenceStore :=
  match files.readText path with
  | .error fault => .error (.preferences (.unreadable path fault))
  | .ok text => ofText text

/-- Where the user's preferences are kept. -/
def defaultPath? (world : World) : Option Path :=
  world.configDirectory?.map fun directory =>
    (directory.join (Path.ofString "markuphint")).join (Path.ofString "preferences.json")

end PreferenceStore

end MarkupLint

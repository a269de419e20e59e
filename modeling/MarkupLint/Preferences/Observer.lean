import MarkupLint.Preferences.Store
/-!
# Observing preferences

A receiver watches one namespace and remembers up to which version it has seen its options. The
lint defaults are four receivers through which the adapters look at the current options without
marking them as seen.
-/

namespace MarkupLint

/-- A watch over one namespace. -/
structure Receiver where
  selected : Namespace
  seen : Nat
deriving DecidableEq, Repr

/-- A new watch, to which everything so far counts as seen. -/
def PreferenceStore.subscribe (store : PreferenceStore) (selected : Namespace) : Receiver :=
  ⟨selected, (store.channel selected).version⟩

namespace Receiver

/-- The current options. -/
def current (receiver : Receiver) (store : PreferenceStore) : Json := store.get receiver.selected

/-- Whether the options have been replaced since they were last seen. -/
def hasChanged (receiver : Receiver) (store : PreferenceStore) : Bool :=
  receiver.seen != (store.channel receiver.selected).version

/-- The watch after seeing the current options. -/
def markSeen (receiver : Receiver) (store : PreferenceStore) : Receiver :=
  store.subscribe receiver.selected

end Receiver

/-- The watches through which the adapters see their default options. -/
structure LintDefaults where
  html : Receiver
  xml : Receiver
  css : Receiver
  js : Receiver
deriving DecidableEq, Repr

namespace LintDefaults

/-- Watches over every namespace of a store. -/
def ofStore (store : PreferenceStore) : LintDefaults where
  html := store.subscribe .htmlHint
  xml := store.subscribe .xmlHint
  css := store.subscribe .cssLint
  js := store.subscribe .jsHint

/-- The watch over a namespace. -/
def receiver (defaults : LintDefaults) : Namespace → Receiver
  | .htmlHint => defaults.html
  | .xmlHint => defaults.xml
  | .cssLint => defaults.css
  | .jsHint => defaults.js

/-- The current default options of a namespace. -/
def options (defaults : LintDefaults) (store : PreferenceStore) (selected : Namespace) : Json :=
  (defaults.receiver selected).current store

/-- The store as the watches show it. -/
def view (defaults : LintDefaults) (store : PreferenceStore) : PreferenceStore where
  html := store.channel defaults.html.selected
  xml := store.channel defaults.xml.selected
  css := store.channel defaults.css.selected
  js := store.channel defaults.js.selected

end LintDefaults

end MarkupLint

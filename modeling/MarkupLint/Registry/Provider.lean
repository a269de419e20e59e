import MarkupLint.Registry.Language
/-!
# Providers

A provider is registered for a language id and is found by the language of a path.
-/

namespace MarkupLint

/-- The languages, and the providers by language id. -/
structure ProviderRegistry (α : Type) where
  languages : LanguageRegistry
  providers : List (String × α)

namespace ProviderRegistry

/-- A registry without providers. -/
def ofLanguages (languages : LanguageRegistry) : ProviderRegistry α := ⟨languages, []⟩

/-- Register a provider in place of any with the same language id. -/
def register (registry : ProviderRegistry α) (languageId : String) (provider : α) :
    ProviderRegistry α :=
  { registry with
    providers := (languageId, provider) ::
      registry.providers.filter fun other => other.1 != languageId }

/-- The provider for a language id. -/
def provider? (registry : ProviderRegistry α) (languageId : String) : Option α :=
  registry.providers.lookup languageId

/-- The provider for the language of a path. -/
def providerFor? (registry : ProviderRegistry α) (path : Path) : Option α :=
  (registry.languages.languageFor? path).bind registry.provider?

end ProviderRegistry

end MarkupLint

import MarkupLint.Proofs.Path
import MarkupLint.Proofs.Scan
import MarkupLint.Service

/-!
# Which paths the service handles

The standard service handles the paths whose last component has an extension of one of its
adapters, and no others.  The names of the configuration files have no extension, so it makes no
difference that they are documents of a language without an adapter.  On the paths that it handles
the service scans with the ruleset that it resolves for their language, and on any other path it
does nothing.
-/

namespace MarkupLint

/-- Whether the last component of a path has an extension, in any case of its ASCII letters. -/
def Path.HasExtension (path : Path) (extension : String) : Prop :=
  ∃ stem text, path.fileName? = some (stem ++ dot :: Octets.ofString text) ∧ stem ≠ [] ∧
    dot ∉ Octets.ofString text ∧ Language.lowerAscii text = extension

namespace Adapter

/-- The language of the documents that an adapter lints. -/
def languageId : Adapter → String
  | .html => "html"
  | .xml => "xml"

/-- The extensions of the files that an adapter lints. -/
def extensions : Adapter → List String
  | .html => ["html", "htm"]
  | .xml => ["xml"]

end Adapter

theorem Path.hasExtension_iff {path : Path} {extension : String} :
    path.HasExtension extension ↔
      (path.extension?.bind Utf8.decode?).map Language.lowerAscii = some extension := by
  simp only [HasExtension, extension?, Option.map_eq_some_iff, Option.bind_eq_some_iff,
    extensionOf?_eq_some_iff, Utf8.decode?_eq_some_iff]
  constructor
  · rintro ⟨stem, text, named, present, last, lower⟩
    exact ⟨text, ⟨_, ⟨_, named, stem, present, last, rfl⟩, rfl⟩, lower⟩
  · rintro ⟨text, ⟨_, ⟨_, named, stem, present, last, rfl⟩, rfl⟩, lower⟩
    exact ⟨stem, text, named, present, last, lower⟩

namespace LanguageRegistry

theorem standard_languages :
    standard.languages =
      [⟨"html", ["html", "htm"], []⟩, ⟨"xml", ["xml"], []⟩,
        ⟨"json", ["json"], [RcFile.htmlHint.fileName, RcFile.xmlHint.fileName]⟩] := by
  decide +kernel

/-- Only configuration files are known by their names, and they are documents without an
adapter. -/
theorem byFileName?_standard {name : String} {language : Language}
    (found : standard.byFileName? name = some language) :
    language.id = "json" ∧ ∃ file : RcFile, name = file.fileName := by
  rw [byFileName?, standard_languages] at found
  have inside := List.mem_of_find?_eq_some found
  have named := List.find?_some found
  simp only [List.mem_cons, List.not_mem_nil, or_false] at inside
  rcases inside with rfl | rfl | rfl
  · simp at named
  · simp at named
  · refine ⟨rfl, ?_⟩
    rw [List.contains_iff_mem, List.mem_cons, List.mem_singleton] at named
    rcases named with named | named
    · exact ⟨.htmlHint, named⟩
    · exact ⟨.xmlHint, named⟩

end LanguageRegistry

theorem RcFile.extension?_of_fileName {path : Path} {file : RcFile}
    (named : path.fileName? = some (Octets.ofString file.fileName)) : path.extension? = none := by
  rw [Path.extension?, named]
  cases file <;> decide

namespace LintService

open LanguageRegistry

variable {engines : EngineSet} {path : Path} {adapter : Adapter}

theorem provider?_standard (languageId : String) :
    standardRegistry.provider? languageId =
      if languageId = "xml" then some .xml
      else if languageId = "html" then some .html
      else none := by
  have providers : standardRegistry.providers = [("xml", .xml), ("html", .html)] := rfl
  rw [ProviderRegistry.provider?, providers, List.lookup_cons, List.lookup_cons, List.lookup_nil]
  grind

theorem provider?_byExtension?_standard {extension : String} :
    ((LanguageRegistry.standard.byExtension? extension).map Language.id).bind
        standardRegistry.provider? = some adapter ↔ extension ∈ adapter.extensions := by
  by_cases known : extension ∈ ["html", "htm", "xml", "json"]
  · simp only [List.mem_cons, List.not_mem_nil, or_false] at known
    rcases known with rfl | rfl | rfl | rfl <;> cases adapter <;> decide +kernel
  · simp only [List.mem_cons, List.not_mem_nil, or_false, not_or] at known
    obtain ⟨notHtml, notHtm, notXml, notJson⟩ := known
    have unknown : LanguageRegistry.standard.byExtension? extension = none := by
      simp [byExtension?, standard_languages, notHtml, notHtm, notXml, notJson]
    rw [unknown]
    cases adapter <;> simp [Adapter.extensions, notHtml, notHtm, notXml]

/-- An adapter handles a path exactly if the path has one of the adapter's extensions. -/
theorem adapterFor?_standard_iff :
    (standard engines).adapterFor? path = some adapter ↔
      ∃ extension ∈ adapter.extensions, path.HasExtension extension := by
  have route : (standard engines).adapterFor? path =
      (LanguageRegistry.standard.languageFor? path).bind standardRegistry.provider? := rfl
  rw [route, languageFor?]
  cases named : (path.fileName?.bind Utf8.decode?).bind LanguageRegistry.standard.byFileName? with
  | some language =>
      -- A path that is known by its name is that of a configuration file and has no extension.
      obtain ⟨text, decoded, found⟩ := Option.bind_eq_some_iff.mp named
      obtain ⟨id, file, rfl⟩ := byFileName?_standard found
      obtain ⟨name, last, decoded⟩ := Option.bind_eq_some_iff.mp decoded
      rw [Utf8.decode?_eq_some_iff.mp decoded] at last
      simp [Path.hasExtension_iff, RcFile.extension?_of_fileName last, id, provider?_standard]
  | none =>
      simp only [Path.hasExtension_iff]
      cases (path.extension?.bind Utf8.decode?).map Language.lowerAscii with
      | none => simp
      | some extension =>
          rw [Option.bind_some, provider?_byExtension?_standard]
          simp

theorem supports_standard_iff :
    (standard engines).supports path = true ↔
      ∃ adapter, (standard engines).adapterFor? path = some adapter := by
  rw [supports, Option.isSome_iff_exists]

theorem resolveRuleset_languageId (adapter : Adapter) (files : FileTree) (workspace : Workspace) :
    (standard engines).resolveRuleset files workspace adapter.languageId =
      adapter.resolveRuleset files workspace := by
  have registered : standardRegistry.provider? adapter.languageId = some adapter := by
    rw [provider?_standard]
    cases adapter <;> rfl
  simp only [resolveRuleset, standard, registered]

theorem scan_of_adapterFor? {service : LintService}
    (handled : service.adapterFor? path = some adapter) (world : World) (workspace : Workspace)
    (text : String) :
    service.scan world workspace text path =
      ⟨some adapter, adapter.scan service.engines world workspace text⟩ := by
  rw [scan, handled]

/-- Whether a scan of a path asks an engine once, with the ruleset that is resolved for a language,
or fails with the error of resolving it. -/
def RoutesTo (service : LintService) (path : Path) (adapter : Adapter) (languageId : String)
    (engine : Engine) : Prop :=
  ∀ (world : World) (workspace : Workspace) (text : String),
    (∃ ruleset, service.resolveRuleset world.files workspace languageId = .ok ruleset ∧
      service.scan world workspace text path =
        ⟨some adapter, ⟨[⟨text, ruleset⟩],
          Adapter.resultOfVerdict (engine.verify world text ruleset)⟩⟩) ∨
    ∃ error, service.resolveRuleset world.files workspace languageId = .error error ∧
      service.scan world workspace text path = ⟨some adapter, ⟨[], .error error⟩⟩

theorem routesTo_standard (engines : EngineSet) (adapter : Adapter)
    (has : ∃ extension ∈ adapter.extensions, path.HasExtension extension) :
    (standard engines).RoutesTo path adapter adapter.languageId (adapter.engine engines) := by
  intro world workspace text
  rw [scan_of_adapterFor? (adapterFor?_standard_iff.mpr has), resolveRuleset_languageId]
  cases resolved : adapter.resolveRuleset world.files workspace with
  | ok ruleset => exact .inl ⟨ruleset, rfl, by simp only [Adapter.scan, resolved, standard]⟩
  | error error => exact .inr ⟨error, rfl, by simp only [Adapter.scan, resolved]⟩

/-- All ways to ask the standard service about a path agree.  It supports exactly the paths with
one of the three extensions, and these have the name of an adapter.  On such a path a scan asks the
engine of the path's language once, with the ruleset that the service resolves for this language,
or fails with the error of resolving it.  On any other path a scan is clean, whatever the files
hold. -/
theorem standard_routes_agree (engines : EngineSet) (path : Path) :
    ((standard engines).supports path = true ↔
      ∃ extension ∈ ["html", "htm", "xml"], path.HasExtension extension) ∧
    (((standard engines).providerName? path).isSome ↔ (standard engines).supports path = true) ∧
    (path.HasExtension "html" ∨ path.HasExtension "htm" →
      (standard engines).RoutesTo path .html "html" engines.html) ∧
    (path.HasExtension "xml" → (standard engines).RoutesTo path .xml "xml" engines.xml) ∧
    ((standard engines).supports path = false →
      ∀ (world : World) (workspace : Workspace) (text : String),
        (standard engines).scan world workspace text path = ⟨none, ⟨[], .ok none⟩⟩) := by
  refine ⟨?_, ?_, ?_, ?_, ?_⟩
  · simp only [supports_standard_iff, adapterFor?_standard_iff]
    constructor
    · rintro ⟨adapter, extension, inside, has⟩
      refine ⟨extension, ?_, has⟩
      cases adapter with
      | html => exact List.mem_append_left ["xml"] inside
      | xml => exact List.mem_append_right ["html", "htm"] inside
    · rintro ⟨extension, inside, has⟩
      simp only [List.mem_cons, List.not_mem_nil, or_false] at inside
      rcases inside with rfl | rfl | rfl
      · exact ⟨.html, _, by decide, has⟩
      · exact ⟨.html, _, by decide, has⟩
      · exact ⟨.xml, _, by decide, has⟩
  · rw [providerName?, Option.isSome_map, supports]
  · intro has
    apply routesTo_standard engines .html
    rcases has with html | htm
    · exact ⟨"html", by decide, html⟩
    · exact ⟨"htm", by decide, htm⟩
  · intro has
    exact routesTo_standard engines .xml ⟨"xml", by decide, has⟩
  · intro unsupported world workspace text
    rw [supports, Option.isSome_eq_false_iff, Option.isNone_iff_eq_none] at unsupported
    rw [scan, unsupported]

/-- While the file for XML is malformed, a page with an extension in upper case is scanned by the
engine for HTML, a document for XML fails, and a style sheet is clean. -/
theorem standard_routes_agree_malformed_xml :
    let html := Engine.ofFunction "first" fun _ _ => .crashed
    let xml := Engine.ofFunction "second" fun _ _ => .findings []
    let service := standard ⟨html, xml⟩
    let world : World :=
      ⟨⟨[], [([Octets.ofString RcFile.xmlHint.fileName], .file (Octets.ofString "[") false)]⟩, []⟩
    let workspace : Workspace := ⟨.builtin, some (Path.ofString "/")⟩
    let page := Path.ofString "a/Index.HTM"
    let document := Path.ofString "b.xml"
    let style := Path.ofString "c.css"
    (service.providerName? page).isSome ∧
    (∃ ruleset, service.scan world workspace "text" page =
      ⟨some .html, ⟨[⟨"text", ruleset⟩], .error (.internal .engineCrashed)⟩⟩) ∧
    (∃ error, service.resolveRuleset world.files workspace "xml" = .error error ∧
      service.scan world workspace "text" document = ⟨some .xml, ⟨[], .error error⟩⟩) ∧
    service.scan world workspace "text" style = ⟨none, ⟨[], .ok none⟩⟩ := by
  intro html xml service world workspace page document style
  have pageHas : page.HasExtension "htm" := Path.hasExtension_iff.mpr (by decide +kernel)
  have documentHas : document.HasExtension "xml" := Path.hasExtension_iff.mpr (by decide +kernel)
  have styleUnsupported : service.supports style = false := by decide +kernel
  have pageResolves : (service.resolveRuleset world.files workspace "html").isOk = true := by
    decide +kernel
  have documentFails : (service.resolveRuleset world.files workspace "xml").isOk = false := by
    decide +kernel
  obtain ⟨supports, named, pageRoute, _⟩ := standard_routes_agree ⟨html, xml⟩ page
  obtain ⟨_, _, _, documentRoute, _⟩ := standard_routes_agree ⟨html, xml⟩ document
  refine ⟨named.mpr (supports.mpr ⟨"htm", by decide, pageHas⟩), ?_, ?_,
    (standard_routes_agree ⟨html, xml⟩ style).2.2.2.2 styleUnsupported world workspace "text"⟩
  · rcases pageRoute (.inr pageHas) world workspace "text" with
      ⟨ruleset, _, asks⟩ | ⟨error, fails, _⟩
    · exact ⟨ruleset, asks⟩
    · rw [fails] at pageResolves
      cases pageResolves
  · rcases documentRoute documentHas world workspace "text" with
      ⟨ruleset, resolves, _⟩ | failsUnasked
    · rw [resolves] at documentFails
      cases documentFails
    · exact failsUnasked

end LintService

end MarkupLint

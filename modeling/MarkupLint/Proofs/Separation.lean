import MarkupLint.Proofs.MalformedFiles
import MarkupLint.Proofs.Ruleset

/-!
# Each adapter sees only its own configuration

The XML adapter looks at the XML options and at the content of one file.  The HTML adapter looks at
the content of the three other files, at the options for scripts and styles, and at the HTML options
outside of the sections for these, which it fills itself.  Two states that agree on what an adapter
looks at are the same to it: it resolves the same ruleset or fails with the same error, and its
scans ask the same of their engine.  What belongs to the other adapter may differ in any way, and a
file of the other adapter may be malformed.
-/

namespace MarkupLint

namespace RcFile

variable {file : RcFile} {first second : FileTree} {root : Option Path} {path : Path}

theorem inspect_congr
    (same : (first.readOctets path).toOption = (second.readOctets path).toOption) :
    inspect first path = inspect second path := by
  unfold inspect FileTree.readText
  cases firstRead : first.readOctets path with
  | error fault =>
      cases secondRead : second.readOctets path with
      | error other => rfl
      | ok content => simp [firstRead, secondRead, Except.toOption] at same
  | ok content =>
      cases secondRead : second.readOctets path with
      | error other => simp [firstRead, secondRead, Except.toOption] at same
      | ok other =>
          simp only [firstRead, secondRead, Except.toOption, Option.some.injEq] at same
          rw [same]

/-- In the open project, if there is one, the file has the same content in two file trees, or cannot
be read in either. -/
def SameContent (file : RcFile) (root : Option Path) (first second : FileTree) : Prop :=
  ∀ folder ∈ root,
    (first.readOctets (folder.join (Path.ofString file.fileName))).toOption =
      (second.readOctets (folder.join (Path.ofString file.fileName))).toOption

theorem load_congr (same : file.SameContent root first second) :
    file.load first root = file.load second root := by
  cases root with
  | none => rfl
  | some folder => simp only [load, loadNamed, inspect_congr (same folder rfl)]

end RcFile

namespace Adapter

open RcFile (SameContent)

/-- Two options values hold the same under every key other than those of the sections for scripts
and styles.  Options that are no object hold nothing under any key. -/
def AgreeOutsideSections (first second : Json) : Prop :=
  ∀ key, key ≠ scriptKey → key ≠ styleKey → first.get? key = second.get? key

/-- Two states are the same to an adapter. -/
structure SeesSame (adapter : Adapter) (first second : World) (one two : Workspace) : Prop where
  /-- The ruleset is the same, or the error of resolving it. -/
  resolves : adapter.resolveRuleset first.files one = adapter.resolveRuleset second.files two
  /-- Scans of a text ask the same of whatever engine. -/
  asks : ∀ (engines others : EngineSet) (text : String),
    (adapter.scan engines first one text).calls = (adapter.scan others second two text).calls
  /-- Scans of a text end in the same way if the engines answer the same, as one engine does
  that looks at nothing but the text and the ruleset. -/
  scans : ∀ (engines others : EngineSet) (text : String),
    (∀ ruleset, (adapter.engine engines).verify first text ruleset =
      (adapter.engine others).verify second text ruleset) →
        adapter.scan engines first one text = adapter.scan others second two text

variable {adapter : Adapter} {first second : World} {one two : Workspace}

/-- Beyond its ruleset a scan sees nothing of a state. -/
theorem SeesSame.of_resolves
    (resolves : adapter.resolveRuleset first.files one = adapter.resolveRuleset second.files two) :
    adapter.SeesSame first second one two where
  resolves := resolves
  asks engines others text := by
    unfold scan
    rw [resolves]
    cases adapter.resolveRuleset second.files two <;> rfl
  scans engines others text sameAnswers := by
    unfold scan
    rw [resolves]
    cases adapter.resolveRuleset second.files two with
    | error error => rfl
    | ok ruleset => simp only [sameAnswers ruleset]

theorem resolveRuleset_xml_congr (sameRoot : one.root = two.root)
    (sameOptions : one.preferences.get .xmlHint = two.preferences.get .xmlHint)
    (sameFile : RcFile.xmlHint.SameContent one.root first.files second.files) :
    xml.resolveRuleset first.files one = xml.resolveRuleset second.files two := by
  have loads := RcFile.load_congr sameFile
  simp only [resolveRuleset, xmlRuleset, loads, sameOptions, ← sameRoot]

theorem resolveRuleset_html_congr (sameRoot : one.root = two.root)
    (sameScripts : one.preferences.get .jsHint = two.preferences.get .jsHint)
    (sameStyles : one.preferences.get .cssLint = two.preferences.get .cssLint)
    (sameOthers : AgreeOutsideSections (one.preferences.get .htmlHint)
      (two.preferences.get .htmlHint))
    (sameFiles : ∀ file ∈ html.consulted, file.SameContent one.root first.files second.files) :
    html.resolveRuleset first.files one = html.resolveRuleset second.files two := by
  have scriptsLoad := RcFile.load_congr (sameFiles .jsHint (by decide))
  have stylesLoad := RcFile.load_congr (sameFiles .cssLint (by decide))
  have overridesLoad := RcFile.load_congr (sameFiles .htmlHint (by decide))
  simp only [resolveRuleset, scriptsLoad, stylesLoad, overridesLoad, ← sameRoot]
  refine bind_congr fun scripts => bind_congr fun styles => ?_
  cases loaded : RcFile.htmlHint.load second.files one.root with
  | error error => rfl
  | ok overrides =>
      -- The ruleset is compared key by key, which takes overrides that leave it an object.
      have overridesObject : ∀ options ∈ overrides, options.isObject := by
        rintro options rfl
        obtain ⟨_, _, _, _, _, _, object⟩ := RcFile.load_eq_some_iff.mp loaded
        exact object
      exact congrArg Except.ok (htmlRuleset_congr overridesObject sameScripts sameStyles sameOthers)

/-- To the XML adapter two states of one project are the same if they agree on the XML options and
on the content of its file;  to the HTML adapter they are if they agree on the options for scripts
and styles, on the HTML options outside of these sections and on the content of its three files. -/
theorem adapters_see_only_their_own (first second : World) (one two : Workspace)
    (sameRoot : one.root = two.root) :
    (one.preferences.get .xmlHint = two.preferences.get .xmlHint →
      RcFile.xmlHint.SameContent one.root first.files second.files →
        xml.SeesSame first second one two) ∧
    (one.preferences.get .jsHint = two.preferences.get .jsHint →
      one.preferences.get .cssLint = two.preferences.get .cssLint →
      AgreeOutsideSections (one.preferences.get .htmlHint) (two.preferences.get .htmlHint) →
      (∀ file ∈ [RcFile.htmlHint, .jsHint, .cssLint],
        file.SameContent one.root first.files second.files) →
          html.SeesSame first second one two) := by
  constructor
  · intro sameOptions sameFile
    exact .of_resolves (resolveRuleset_xml_congr sameRoot sameOptions sameFile)
  · intro sameScripts sameStyles sameOthers sameFiles
    have consulted : ∀ file ∈ html.consulted,
        file.SameContent one.root first.files second.files := by
      intro file inside
      refine sameFiles file ?_
      revert inside
      cases file <;> decide
    exact .of_resolves
      (resolveRuleset_html_congr sameRoot sameScripts sameStyles sameOthers consulted)

/-- A malformed file for scripts makes no difference to XML, a malformed XML file none to HTML, and
neither do the options of the other adapter or what the HTML options hold in a section. -/
theorem adapters_see_only_their_own_malformed :
    let root := Path.ofString "/"
    let holding (file : RcFile) (text : String) : World :=
      LintService.worldOf fun other => if other = file then Octets.ofString text else []
    let strict : Workspace := ⟨.builtin, some root⟩
    let loose : Workspace :=
      ⟨PreferenceStore.builtin.set .htmlHint (.object [("jshint", .null)]), some root⟩
    let plain : Workspace := ⟨PreferenceStore.builtin.set .xmlHint (.array []), some root⟩
    (RcFile.xmlHint.SameContent (some root) (holding .jsHint "\x7b").files
        (holding .cssLint "[").files ∧
      xml.SeesSame (holding .jsHint "\x7b") (holding .cssLint "[") strict loose) ∧
    ((∀ file ∈ [RcFile.htmlHint, .jsHint, .cssLint],
        file.SameContent (some root) (holding .xmlHint "\x7b").files
          (holding .xmlHint "").files) ∧
      AgreeOutsideSections (loose.preferences.get .htmlHint) (plain.preferences.get .htmlHint) ∧
      html.SeesSame (holding .xmlHint "\x7b") (holding .xmlHint "") loose plain) := by
  intro root holding strict loose plain
  have read (kind : RcFile) (text : String) (file : RcFile) :
      (holding kind text).files.readOctets (root.join (Path.ofString file.fileName)) =
        .ok (if file = kind then Octets.ofString text else []) :=
    LintService.readOctets_worldOf _ file
  have sameFile : RcFile.xmlHint.SameContent (some root) (holding .jsHint "\x7b").files
      (holding .cssLint "[").files := by
    rintro _ ⟨⟩
    rw [read, read]
    rfl
  have sameFiles : ∀ file ∈ [RcFile.htmlHint, .jsHint, .cssLint],
      file.SameContent (some root) (holding .xmlHint "\x7b").files
        (holding .xmlHint "").files := by
    rintro file inside _ ⟨⟩
    have other : file ≠ .xmlHint := by
      rintro rfl
      revert inside
      decide
    rw [read, read, if_neg other, if_neg other]
  have sameOthers : AgreeOutsideSections (loose.preferences.get .htmlHint)
      (plain.preferences.get .htmlHint) := by
    intro key notScripts _
    change List.lookup key [(scriptKey, Json.null)] = none
    rw [List.lookup_cons, beq_false_of_ne notScripts, List.lookup_nil]
  exact ⟨⟨sameFile, (adapters_see_only_their_own _ _ strict loose rfl).1 rfl sameFile⟩,
    sameFiles, sameOthers,
    (adapters_see_only_their_own _ _ loose plain rfl).2 rfl rfl sameOthers sameFiles⟩

end Adapter

end MarkupLint

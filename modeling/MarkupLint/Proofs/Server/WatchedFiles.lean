import MarkupLint.Proofs.Adapter
import MarkupLint.Proofs.Path
import MarkupLint.Proofs.Separation
import MarkupLint.Server.Session

/-!
# The watcher knows the files that scans read

A configuration file is read from the root of the project joined with its name, and watched files
are recognised by the last component of their path.  The two agree for every root, however it is
spelled: the path that is read is recognised as that of its file and of no other.  So a batch of
changes in which one identifier leads there makes the session check its documents again, whatever
else the batch holds, and no edit that makes a difference to a scan is missed once it is told.
-/

namespace MarkupLint

namespace RcFile

/-- The path from which the file is read in a project. -/
def pathIn (file : RcFile) (root : Path) : Path := root.join (Path.ofString file.fileName)

/-- Whether the last component of a path is just the name of the file. -/
def IsNameOf (file : RcFile) (path : Path) : Prop :=
  path.components.getLast? = some (.name (Octets.ofString file.fileName))

variable {file : RcFile} {path : Path}

theorem isNameOf_iff : file.IsNameOf path ↔
    path.fileName? = some (Octets.ofString file.fileName) := by
  rw [IsNameOf, Path.fileName?]
  constructor
  · intro last
    rw [last]
  · intro named
    split at named
    · next last =>
        cases named
        exact last
    · cases named

theorem isNameOf_pathIn (file : RcFile) (root : Path) : file.IsNameOf (file.pathIn root) :=
  isNameOf_iff.mpr (Path.fileName?_join root file.isPlainName_fileName)

theorem find?_all_fileName (file : RcFile) :
    all.find? (fun other => Octets.ofString other.fileName = Octets.ofString file.fileName) =
      some file := by
  cases file <;> decide

theorem ofPath?_eq_some_iff : ofPath? path = some file ↔ file.IsNameOf path := by
  rw [isNameOf_iff, ofPath?]
  cases path.fileName? with
  | none => simp
  | some name =>
      constructor
      · intro found
        have named := List.find?_some found
        rw [decide_eq_true_eq] at named
        rw [named]
      · intro named
        cases named
        exact file.find?_all_fileName

end RcFile

namespace Server

/-- Whether an identifier leads to a path that ends in the name of a configuration file. -/
def LeadsToRcFile (uri : Uri) : Prop :=
  ∃ path, uri.path? = some path ∧ ∃ file : RcFile, file.IsNameOf path

namespace Session

/-- Whether a batch of changed files makes a session check all its documents again. -/
def Rescans (session : Session) (world : World) (uris : List Uri) : Prop :=
  session.step world (.filesChanged uris) =
    (session, .andThen ⟨[], [.configurationChanged]⟩ (session.checkAll world))

variable {uris : List Uri}

theorem isRcFile_iff {uri : Uri} : isRcFile uri = true ↔ LeadsToRcFile uri := by
  simp only [isRcFile, LeadsToRcFile, Option.isSome_iff_exists, Option.bind_eq_some_iff,
    RcFile.ofPath?_eq_some_iff]
  constructor
  · rintro ⟨file, path, leads, named⟩
    exact ⟨path, leads, file, named⟩
  · rintro ⟨path, leads, file, named⟩
    exact ⟨file, path, leads, named⟩

theorem any_isRcFile_iff : uris.any isRcFile = true ↔ ∃ uri ∈ uris, LeadsToRcFile uri := by
  simp only [List.any_eq_true, isRcFile_iff]

theorem step_filesChanged_of_leads (session : Session) (world : World)
    (told : ∃ uri ∈ uris, LeadsToRcFile uri) : session.Rescans world uris := by
  rw [Rescans, step, if_pos (any_isRcFile_iff.mpr told)]

theorem step_filesChanged_of_not_leads (session : Session) (world : World)
    (untold : ¬ ∃ uri ∈ uris, LeadsToRcFile uri) :
    session.step world (.filesChanged uris) = (session, .nothing) := by
  rw [step, if_neg (mt any_isRcFile_iff.mp untold)]

theorem rescans_iff {session : Session} {world : World} :
    session.Rescans world uris ↔ ∃ uri ∈ uris, LeadsToRcFile uri := by
  constructor
  · intro rescans
    by_contra untold
    rw [Rescans, step_filesChanged_of_not_leads session world untold] at rescans
    have notices := congrArg (fun outcome : Session × Report => outcome.2.notices) rescans
    simp [Report.nothing, Report.andThen] at notices
  · exact step_filesChanged_of_leads session world

end Session

end Server

/-- Rulesets that differ come from a file that the adapter consults and that was edited. -/
theorem Adapter.exists_edited {adapter : Adapter} {before now : World} {workspace : Workspace}
    (differ : adapter.resolveRuleset before.files workspace ≠
      adapter.resolveRuleset now.files workspace) :
    ∃ file ∈ adapter.consulted, ∃ root, workspace.root = some root ∧
      (before.files.readOctets (file.pathIn root)).toOption ≠
        (now.files.readOctets (file.pathIn root)).toOption := by
  by_contra unedited
  push Not at unedited
  refine differ (adapter.resolveRuleset_congr fun file inside => RcFile.load_congr ?_)
  intro root opened
  exact unedited file inside root opened

namespace Server

/-- The path from which a configuration file is read is recognised as that of its file, for every
root.  A batch of changed files makes a session check its documents again exactly if one of the
identifiers leads to a path that ends in the name of a configuration file.  So if an adapter
resolves another ruleset than before, some file that it consults was edited, and every batch that
tells of this file is noticed, by whatever path the host knows the root. -/
theorem watcher_knows_what_is_read :
    (∀ (file : RcFile) (root : Path), RcFile.ofPath? (file.pathIn root) = some file ∧
      ∀ first second : FileTree,
        (first.readOctets (file.pathIn root)).toOption =
          (second.readOctets (file.pathIn root)).toOption →
        file.load first (some root) = file.load second (some root)) ∧
    (∀ (session : Session) (world : World) (uris : List Uri),
      (session.Rescans world uris ↔ ∃ uri ∈ uris, LeadsToRcFile uri) ∧
      (¬ session.Rescans world uris →
        session.step world (.filesChanged uris) = (session, .nothing))) ∧
    ∀ (session : Session) (adapter : Adapter) (before now : World),
      adapter.resolveRuleset before.files session.workspace ≠
        adapter.resolveRuleset now.files session.workspace →
      ∃ file ∈ adapter.consulted, ∃ root, session.workspace.root = some root ∧
        (before.files.readOctets (file.pathIn root)).toOption ≠
          (now.files.readOctets (file.pathIn root)).toOption ∧
        ∀ uris : List Uri, (∃ uri ∈ uris, ∃ path, uri.path? = some path ∧ file.IsNameOf path) →
          session.Rescans now uris := by
  refine ⟨fun file root => ⟨?_, ?_⟩, fun session world uris => ⟨Session.rescans_iff, ?_⟩, ?_⟩
  · exact RcFile.ofPath?_eq_some_iff.mpr (file.isNameOf_pathIn root)
  · intro first second same
    refine RcFile.load_congr ?_
    rintro folder ⟨⟩
    exact same
  · intro silent
    exact Session.step_filesChanged_of_not_leads session world (mt Session.rescans_iff.mpr silent)
  · intro session adapter before now differ
    obtain ⟨file, inside, root, opened, edited⟩ := Adapter.exists_edited differ
    refine ⟨file, inside, root, opened, edited, ?_⟩
    rintro uris ⟨uri, told, path, leads, named⟩
    exact Session.rescans_iff.mpr ⟨uri, told, path, leads, file, named⟩

/-- The XML options of a project are written, and the file is told after a page and after an
identifier that leads to no path. -/
theorem watcher_knows_what_is_read_xml_options :
    let root := Path.ofString "/"
    let session := Session.start ⟨.builtin, some root⟩
      (LintService.standard (.shared LintService.quietEngine))
    let holding (text : String) : World := LintService.worldOf fun file =>
      if file = .xmlHint then Octets.ofString text else []
    let page : Uri := ⟨"file", some .none, "/index.html", none, none⟩
    let unsaved : Uri := ⟨"untitled", none, "1", none, none⟩
    let options : Uri := ⟨"file", some .none, "/" ++ RcFile.xmlHint.fileName, none, none⟩
    Adapter.xml.resolveRuleset (holding "\x7b\x7d").files session.workspace ≠
        Adapter.xml.resolveRuleset (holding "\x7b\"doctype-first\":true\x7d").files
          session.workspace ∧
      session.Rescans (holding "\x7b\"doctype-first\":true\x7d") [page, unsaved, options] := by
  intro root session holding page unsaved options
  have differ : Adapter.xml.resolveRuleset (holding "\x7b\x7d").files session.workspace ≠
      Adapter.xml.resolveRuleset (holding "\x7b\"doctype-first\":true\x7d").files
        session.workspace := by
    decide +kernel
  obtain ⟨file, consulted, _, _, _, noticed⟩ :=
    watcher_knows_what_is_read.2.2 session .xml (holding "\x7b\x7d") _ differ
  obtain rfl : file = .xmlHint := List.mem_singleton.mp consulted
  have leads : options.path? = some (RcFile.xmlHint.pathIn root) := by
    decide +kernel
  exact ⟨differ, noticed _ ⟨options, by simp, _, leads, RcFile.isNameOf_pathIn ..⟩⟩

end Server

end MarkupLint

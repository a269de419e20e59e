import MarkupLint.RcFile
import MarkupLint.Proofs.Text.Utf8

/-!
# What the loading of a configuration file gives

The octets of a file are a document if they are the written form of a text that reads as a value.
Loading fails exactly if there is a text in the file, and this text is not a document.  Octets that
are no text at all are passed over, as if there were no file.
-/

namespace MarkupLint

theorem FileTree.readText_eq_ok_iff {tree : FileTree} {path : Path} {text : String} :
    tree.readText path = .ok text ↔ tree.readOctets path = .ok (Octets.ofString text) := by
  rw [FileTree.readText]
  cases tree.readOctets path with
  | error fault => simp
  | ok content =>
      rw [Except.ok.injEq, ← Utf8.decode?_eq_some_iff]
      cases decoded : Utf8.decode? content <;> simp [decoded]

namespace RcFile

/-- Whether octets are the written form of a text. -/
def IsText (content : Octets) : Prop := ∃ text, Octets.ofString text = content

theorem isText_iff {content : Octets} : IsText content ↔ (Utf8.decode? content).isSome := by
  rw [Option.isSome_iff_exists]
  exact exists_congr fun text => eq_comm.trans Utf8.decode?_eq_some_iff.symm

instance (content : Octets) : Decidable (IsText content) := decidable_of_iff _ isText_iff.symm

/-- Whether octets are the written form of a text that reads as a value. -/
def IsDocument (content : Octets) : Prop :=
  ∃ text value, Octets.ofString text = content ∧ Json.parse text = .ok value

/-- Whether octets are the content of a file that is neither empty nor a document. -/
def IsMalformed (content : Octets) : Prop := content ≠ [] ∧ ¬ IsDocument content

theorem isMalformed_ofString_iff {text : String} :
    IsMalformed (Octets.ofString text) ↔
      text ≠ "" ∧ ∃ fault, Json.parse text = .error fault := by
  have empty : Octets.ofString text = [] ↔ text = "" :=
    Utf8.ofString_injective.eq_iff' rfl
  have document : IsDocument (Octets.ofString text) ↔ ∃ value, Json.parse text = .ok value := by
    constructor
    · rintro ⟨other, value, same, read⟩
      exact ⟨value, Utf8.ofString_injective same ▸ read⟩
    · rintro ⟨value, read⟩
      exact ⟨text, value, rfl, read⟩
  rw [IsMalformed, Ne, empty, document]
  cases Json.parse text <;> simp

variable {file : RcFile} {files : FileTree} {root : Option Path} {folder : Path}
  {content : Octets} {options : Json} {error : LintError}

theorem contentOf_eq_malformed_iff {text : String} {fault : Json.ReadError} :
    contentOf text = .malformed fault ↔ text ≠ "" ∧ Json.parse text = .error fault := by
  rw [contentOf]
  split
  · next empty => simp [empty]
  · next present =>
      cases read : Json.parse text with
      | error other => simp [present]
      | ok value => cases kind : value.isObject <;> simp [kind]

theorem inspect_eq_malformed_iff {path : Path} {fault : Json.ReadError} :
    inspect files path = .malformed fault ↔
      ∃ text, files.readOctets path = .ok (Octets.ofString text) ∧ text ≠ "" ∧
        Json.parse text = .error fault := by
  simp only [← FileTree.readText_eq_ok_iff, inspect]
  cases files.readText path with
  | error other => simp
  | ok text => simp [contentOf_eq_malformed_iff]

theorem contentOf_eq_overrides_iff {text : String} :
    contentOf text = .overrides options ↔
      text ≠ "" ∧ Json.parse text = .ok options ∧ options.isObject := by
  rw [contentOf]
  split
  · next empty => simp [empty]
  · next present =>
      cases read : Json.parse text with
      | error other => simp
      | ok value =>
          by_cases object : value.isObject <;> grind

theorem inspect_eq_overrides_iff {path : Path} :
    inspect files path = .overrides options ↔
      ∃ text, files.readOctets path = .ok (Octets.ofString text) ∧ text ≠ "" ∧
        Json.parse text = .ok options ∧ options.isObject := by
  simp only [← FileTree.readText_eq_ok_iff, inspect]
  cases files.readText path with
  | error other => simp
  | ok text => simp [contentOf_eq_overrides_iff]

/-- Loading fails only on the content of a file of the open project, and the error tells where the
file is and what is wrong with its text. -/
theorem load_eq_error_iff :
    file.load files root = .error error ↔
      ∃ folder text fault, root = some folder ∧
        files.readOctets (folder.join (Path.ofString file.fileName)) =
          .ok (Octets.ofString text) ∧
        text ≠ "" ∧ Json.parse text = .error fault ∧
        error = .malformedConfig (folder.join (Path.ofString file.fileName)) fault := by
  rw [load]
  cases root with
  | none => simp [loadNamed]
  | some folder =>
      constructor
      · intro fails
        simp only [loadNamed] at fails
        split at fails
        · cases fails
        · cases fails
        · cases fails
        · next fault malformed =>
            obtain ⟨text, read, present, unread⟩ := inspect_eq_malformed_iff.mp malformed
            exact ⟨folder, text, fault, rfl, read, present, unread, (Except.error.inj fails).symm⟩
      · rintro ⟨_, text, fault, ⟨⟩, read, present, unread, rfl⟩
        have malformed := inspect_eq_malformed_iff.mpr ⟨text, read, present, unread⟩
        simp only [loadNamed, malformed]

/-- The overrides are the value of the text in a file of the open project, which is an object. -/
theorem loadNamed_eq_some_iff {name : String} :
    loadNamed files root name = .ok (some options) ↔
      ∃ folder text, root = some folder ∧
        files.readOctets (folder.join (Path.ofString name)) = .ok (Octets.ofString text) ∧
        text ≠ "" ∧ Json.parse text = .ok options ∧ options.isObject := by
  cases root with
  | none => simp [loadNamed]
  | some folder =>
      constructor
      · intro loaded
        simp only [loadNamed] at loaded
        split at loaded
        · cases loaded
        · cases loaded
        · next found overrides =>
            obtain ⟨text, read, present, value, object⟩ := inspect_eq_overrides_iff.mp overrides
            cases loaded
            exact ⟨folder, text, rfl, read, present, value, object⟩
        · cases loaded
      · rintro ⟨_, text, ⟨⟩, read, present, value, object⟩
        have overrides := inspect_eq_overrides_iff.mpr ⟨text, read, present, value, object⟩
        simp only [loadNamed, overrides]

theorem load_eq_some_iff :
    file.load files root = .ok (some options) ↔
      ∃ folder text, root = some folder ∧
        files.readOctets (folder.join (Path.ofString file.fileName)) =
          .ok (Octets.ofString text) ∧
        text ≠ "" ∧ Json.parse text = .ok options ∧ options.isObject :=
  loadNamed_eq_some_iff

theorem load_of_not_isText
    (read : files.readOctets (folder.join (Path.ofString file.fileName)) = .ok content)
    (noText : ¬ IsText content) : file.load files (some folder) = .ok none := by
  have undecoded : Utf8.decode? content = none := by
    rwa [isText_iff, Option.not_isSome_iff_eq_none] at noText
  simp only [load, loadNamed, inspect, FileTree.readText, read, undecoded]

/-- A regular file fails to load exactly if its content is a text, but malformed. -/
theorem load_fails_iff
    (read : files.readOctets (folder.join (Path.ofString file.fileName)) = .ok content) :
    (∃ error, file.load files (some folder) = .error error) ↔
      IsMalformed content ∧ IsText content := by
  constructor
  · rintro ⟨error, fails⟩
    obtain ⟨_, text, fault, ⟨⟩, spelled, present, unread, _⟩ := load_eq_error_iff.mp fails
    obtain rfl : content = Octets.ofString text := Except.ok.inj (read.symm.trans spelled)
    exact ⟨isMalformed_ofString_iff.mpr ⟨present, fault, unread⟩, text, rfl⟩
  · rintro ⟨malformed, text, rfl⟩
    obtain ⟨present, fault, unread⟩ := isMalformed_ofString_iff.mp malformed
    exact ⟨_, load_eq_error_iff.mpr ⟨folder, text, fault, rfl, read, present, unread, rfl⟩⟩

end RcFile

end MarkupLint

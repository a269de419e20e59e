import MarkupLint.LintError
import MarkupLint.FileTree
/-!
# Project configuration files

Four files at the root of a project override the default options. They are read again for every
scan. A file that cannot be read, is empty or holds something other than an object overrides
nothing; a file with any other content that is not a document is an error.
-/

namespace MarkupLint

/-- A configuration file of a project. -/
inductive RcFile where
  | htmlHint
  | xmlHint
  | jsHint
  | cssLint
deriving DecidableEq, Repr

namespace RcFile

/-- All configuration files in their order. -/
def all : List RcFile := [.htmlHint, .xmlHint, .jsHint, .cssLint]

/-- The name of the file. -/
def fileName : RcFile → String
  | .htmlHint => ".htmlhintrc"
  | .xmlHint => ".xmlhintrc"
  | .jsHint => ".jshintrc"
  | .cssLint => ".csslintrc"

/-- The file whose name is the last component of a path. -/
def ofPath? (path : Path) : Option RcFile :=
  match path.fileName? with
  | none => none
  | some name => all.find? fun file => Octets.ofString file.fileName = name

/-- What a configuration file has to say. -/
inductive Content where
  | absent
  | notObject (kind : String)
  | overrides (options : Json)
  | malformed (error : Json.ReadError)
deriving DecidableEq

/-- The meaning of the text of a configuration file. -/
def contentOf (text : String) : Content :=
  if text = "" then .absent
  else match Json.parse text with
    | .error error => .malformed error
    | .ok value => if value.isObject then .overrides value else .notObject value.kindName

/-- Look at the file at a path. -/
def inspect (files : FileTree) (path : Path) : Content :=
  match files.readText path with
  | .error _ => .absent
  | .ok text => contentOf text

/-- The overrides of a named file at the root of the open project, if there are any. -/
def loadNamed (files : FileTree) (root : Option Path) (name : String) :
    Except LintError (Option Json) :=
  match root with
  | none => .ok none
  | some root =>
      let path := root.join (Path.ofString name)
      match inspect files path with
      | .absent | .notObject _ => .ok none
      | .overrides options => .ok (some options)
      | .malformed error => .error (.malformedConfig path error)

/-- The overrides of a configuration file of the open project, if there are any. -/
def load (file : RcFile) (files : FileTree) (root : Option Path) :
    Except LintError (Option Json) :=
  loadNamed files root file.fileName

end RcFile

end MarkupLint

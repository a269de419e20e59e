import MarkupLint.Notice
/-!
# Files to lint

Which files a list of operands stands for: a directory stands for all supported files below it,
and anything else for itself if it is supported. The files come in the order of their paths, and
each comes once, however often and on whatever way it was found.
-/

namespace MarkupLint.CommandLine

/-- What finding files needs to know: which paths are supported, which are directories, and what
lies below those; an entry below a directory may be unreadable. -/
structure FileView where
  supports : Path → Bool
  isDirectory : Path → Bool
  walk : Path → List (Except SystemFault FileTree.Found)

namespace FileView

/-- The view of a file tree. -/
def ofTree (supports : Path → Bool) (files : FileTree) : FileView where
  supports
  isDirectory := files.isDirectory
  walk path := (files.walk path).map .ok

/-- The supported files that one operand stands for. -/
def expand (view : FileView) (operand : Path) : List Path :=
  if view.isDirectory operand then
    (view.walk operand).filterMap fun
      | .ok found => if found.isFile && view.supports found.path then some found.path else none
      | .error _ => none
  else if view.supports operand then [operand] else []

/-- The operands that stand for no file because they are not supported. -/
def unsupported (view : FileView) (operands : List Path) : List Path :=
  operands.filter fun operand => !(view.isDirectory operand || view.supports operand)

/-- The paths without those that equal the one before them. -/
def dropRepeated : List Path → List Path
  | first :: second :: rest =>
      if first.same second then dropRepeated (first :: rest)
      else first :: dropRepeated (second :: rest)
  | paths => paths
termination_by paths => paths.length

/-- The files that operands stand for. -/
def collect (view : FileView) (operands : List Path) : List Path :=
  dropRepeated ((operands.flatMap view.expand).mergeSort Path.atMost)

end FileView

end MarkupLint.CommandLine

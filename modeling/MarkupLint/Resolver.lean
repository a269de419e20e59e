import MarkupLint.RcFile
import MarkupLint.Sharing
/-!
# Resolvers

A resolver finds the configuration files of the open project. Several resolvers may share one
project root; they keep nothing else, and every file is read when it is asked for.
-/

namespace MarkupLint

/-- Resolvers by number, each with the root of its project. -/
structure Resolvers where
  roots : Shared (Option Path)
deriving DecidableEq, Repr

namespace Resolvers

/-- One resolver, number zero, for a project. -/
def single (root : Option Path) : Resolvers := ⟨Shared.empty.create root⟩

/-- How many resolvers there are. The next one gets this number. -/
def count (resolvers : Resolvers) : Nat := resolvers.roots.count

/-- Add a resolver with a project of its own. -/
def create (resolvers : Resolvers) (root : Option Path) : Resolvers :=
  ⟨resolvers.roots.create root⟩

/-- Add a resolver that shares the project of another one. -/
def share (resolvers : Resolvers) (number : Nat) : Resolvers := ⟨resolvers.roots.share number⟩

/-- The root of a resolver's project, if one is open. -/
def root? (resolvers : Resolvers) (number : Nat) : Option Path :=
  (resolvers.roots.get? number).join

/-- Open another project, or close it, through a resolver. -/
def setRoot (resolvers : Resolvers) (number : Nat) (root : Option Path) : Resolvers :=
  ⟨resolvers.roots.put number root⟩

/-- The overrides of a named file, if there are any. -/
def loadNamed (resolvers : Resolvers) (number : Nat) (files : FileTree) (name : String) :
    Except LintError (Option Json) :=
  RcFile.loadNamed files (resolvers.root? number) name

/-- The overrides of a configuration file, if there are any. -/
def load (resolvers : Resolvers) (number : Nat) (files : FileTree) (file : RcFile) :
    Except LintError (Option Json) :=
  file.load files (resolvers.root? number)

end Resolvers

end MarkupLint

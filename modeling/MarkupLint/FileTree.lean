import MarkupLint.Path
import MarkupLint.SystemFault
/-!
# File trees

The directories, files and symbolic links that paths lead to. A location is the list of names from
the root, and a path is followed name by name: dots stay, two dots go up, and a link is replaced by
its target. Every location with an entry has directories for all the locations above it.
-/

namespace MarkupLint

/-- The names from the root to a place in the tree. -/
abbrev Location := List Octets

/-- What is at a location. -/
inductive FileEntry where
  | directory
  | file (content : Octets) (executable : Bool)
  | link (target : Path)
deriving DecidableEq, Repr

/-- The entries of a tree, and the directory from which relative paths start. -/
structure FileTree where
  workingDirectory : Location
  entries : List (Location × FileEntry)
deriving DecidableEq, Repr

namespace FileTree

/-- The entry at a location; the root is always a directory. -/
def entryAt? (tree : FileTree) (location : Location) : Option FileEntry :=
  if location = [] then some .directory else tree.entries.lookup location

/-- Where following names comes to rest: at a location, at a link with names left, or at a fault. -/
inductive Walk where
  | arrived (location : Location)
  | link (directory : Location) (target : Path) (rest : List Octets)
  | stuck (fault : SystemFault)

/-- The longest name that a file may have. -/
def longestName : Nat := 255

/-- The longest path that can be followed. -/
def longestPath : Nat := 4095

/-- The number of links that are followed on the way along one path. -/
def mostLinks : Nat := 40

/-- Follow names from a directory. A link at the very end is followed only on request, and a file
can only be the end. -/
def follow (tree : FileTree) (lastLink : Bool) (directory : Location) : List Octets → Walk
  | [] => .arrived directory
  | name :: rest =>
      if name = [] ∨ name = [Path.dot] then tree.follow lastLink directory rest
      else if name = [Path.dot, Path.dot] then tree.follow lastLink directory.dropLast rest
      else if longestName < name.length then .stuck .nameTooLong
      else
        let location := directory ++ [name]
        match tree.entryAt? location with
        | none => .stuck .noSuchFile
        | some .directory => tree.follow lastLink location rest
        | some (.file ..) => if rest = [] then .arrived location else .stuck .notDirectory
        | some (.link target) =>
            if rest = [] ∧ !lastLink then .arrived location else .link directory target rest

/-- Follow names and the links among them. -/
def resolveNames (tree : FileTree) (lastLink : Bool) :
    (links : Nat) → (directory : Location) → List Octets → Except SystemFault Location
  | links, directory, names =>
      match tree.follow lastLink directory names with
      | .arrived location => .ok location
      | .stuck fault => .error fault
      | .link directory target rest =>
          match links with
          | 0 => .error .linkLoop
          | links + 1 =>
              let start := if target.isAbsolute then [] else directory
              tree.resolveNames lastLink links start (Path.segments target.octets ++ rest)

/-- The directory from which a path starts. -/
def startOf (tree : FileTree) (path : Path) : Location :=
  if path.isAbsolute then [] else tree.workingDirectory

/-- The location that a path leads to. -/
def resolve (tree : FileTree) (path : Path) (lastLink : Bool := true) :
    Except SystemFault Location :=
  if path.octets.contains 0 then .error .nulInPath
  else if path.octets = [] then .error .noSuchFile
  else if longestPath < path.octets.length then .error .nameTooLong
  else tree.resolveNames lastLink mostLinks (tree.startOf path) (Path.segments path.octets)

/-- The entry that a path leads to. -/
def entry? (tree : FileTree) (path : Path) : Except SystemFault (Location × FileEntry) :=
  match tree.resolve path with
  | .error fault => .error fault
  | .ok location =>
      match tree.entryAt? location with
      | some entry => .ok (location, entry)
      | none => .error .noSuchFile

/-- The content of the file that a path leads to. -/
def readOctets (tree : FileTree) (path : Path) : Except SystemFault Octets :=
  match tree.entry? path with
  | .error fault => .error fault
  | .ok (_, .file content _) => .ok content
  | .ok _ => .error .isDirectory

/-- The content of a file as text. -/
def readText (tree : FileTree) (path : Path) : Except SystemFault String :=
  match tree.readOctets path with
  | .error fault => .error fault
  | .ok content =>
      match Utf8.decode? content with
      | some text => .ok text
      | none => .error .invalidUtf8

/-- Whether a path leads to a directory. -/
def isDirectory (tree : FileTree) (path : Path) : Bool :=
  match tree.entry? path with
  | .ok (_, .directory) => true
  | _ => false

/-- Whether a path leads to a file. -/
def isFile (tree : FileTree) (path : Path) : Bool :=
  match tree.entry? path with
  | .ok (_, .file ..) => true
  | _ => false

/-- The names that remain of a location below a directory. -/
def below? : (directory location : Location) → Option (List Octets)
  | [], rest => some rest
  | _ :: _, [] => none
  | name :: directory, other :: location =>
      if name = other then below? directory location else none

/-- An entry found below a directory, by the path that leads to it from the path of the
directory. -/
structure Found where
  path : Path
  isFile : Bool
deriving DecidableEq, Repr

/-- Everything below the directory that a path leads to. Links are found but not followed. -/
def walk (tree : FileTree) (path : Path) : List Found :=
  match tree.entry? path with
  | .ok (directory, .directory) =>
      tree.entries.filterMap fun (location, entry) =>
        match below? directory location with
        | none | some [] => none
        | some names =>
            let isFile := match entry with
              | .file .. => true
              | _ => false
            some ⟨names.foldl (fun path name => path.join ⟨name⟩) path, isFile⟩
  | _ => []

/-- The tree with an entry at a location. -/
def setEntry (tree : FileTree) (location : Location) (entry : FileEntry) : FileTree :=
  { tree with
    entries := tree.entries.filter (fun other => other.1 != location) ++ [(location, entry)] }

/-- Follow names from a directory and create the directories that are missing. -/
def ensureDirectories (tree : FileTree) (directory : Location) (names : List Octets) :
    FileTree × Location :=
  names.foldl (fun (tree, directory) name =>
    match tree.resolveNames true mostLinks directory [name] with
    | .ok location => (tree, location)
    | .error _ =>
        let location := directory ++ [name]
        (tree.setEntry location .directory, location))
    (tree, directory)

/-- Put an entry at the end of a path, together with the directories on the way. A file is put
where a link at the end leads to, if it leads anywhere. -/
def put (tree : FileTree) (path : Path) (entry : FileEntry) : FileTree :=
  let names := (Path.segments path.octets).filter (· != [])
  match entry with
  | .directory => (tree.ensureDirectories (tree.startOf path) names).1
  | entry =>
      let (tree, directory) := tree.ensureDirectories (tree.startOf path) names.dropLast
      match names.getLast? with
      | none => tree
      | some name =>
          let location := directory ++ [name]
          let location := match entry with
            | .file .. =>
                (tree.resolveNames true mostLinks directory [name]).toOption.getD location
            | _ => location
          tree.setEntry location entry

/-- Remove what a path leads to, with everything below it; a link is removed itself. -/
def remove (tree : FileTree) (path : Path) : FileTree :=
  match tree.resolve path false with
  | .error _ => tree
  | .ok location =>
      { tree with
        entries := tree.entries.filter fun other => (below? location other.1).isNone }

/-- A tree that holds nothing but a working directory. -/
def empty (workingDirectory : Path) : FileTree :=
  let location := (Path.segments workingDirectory.octets).filter (· != [])
  let tree : FileTree := ⟨[], []⟩
  { (tree.ensureDirectories [] location).1 with workingDirectory := location }

/-- The tree seen from another working directory. -/
def enter (tree : FileTree) (path : Path) : FileTree :=
  match tree.resolve path with
  | .ok location => { tree with workingDirectory := location }
  | .error _ => tree

/-- The working directory as an absolute path. -/
def workingPath (tree : FileTree) : Path :=
  match tree.workingDirectory with
  | [] => ⟨[Path.slash]⟩
  | names => ⟨names.flatMap (Path.slash :: ·)⟩

end FileTree

end MarkupLint

import MarkupLint.Shell.Utility.Filters
/-!
# Utilities for files

The utilities that list files, name their parts, or change them.
-/

namespace MarkupLint.Shell.Utility

/-- The last component of a path, without a given ending. -/
def baseName (path : Data) (ending : Data) : Data :=
  let trimmed := (path.reverse.dropWhile (· == '/')).reverse
  let base := (trimmed.reverse.takeWhile (· != '/')).reverse
  if base.isEmpty then path.take 1
  else if ending.isSuffixOf base && ending != base then base.take (base.length - ending.length)
  else base

/-- The path above the last component. -/
def directoryName (path : Data) : Data :=
  let trimmed := (path.reverse.dropWhile (· == '/')).reverse
  let above := (trimmed.reverse.dropWhile (· != '/')).dropWhile (· == '/')
  if above.isEmpty then if path.head? = some '/' then ['/'] else ['.'] else above.reverse

/-- A path as the tree of files takes it. -/
def pathOf (name : Data) : Path := ⟨Data.octets name⟩

/-- The names in a directory, in order. -/
def namesIn (files : FileTree) (directory : Location) : List Data :=
  let names := files.entries.filterMap fun (location, _) =>
    match FileTree.below? directory location with
    | some [name] => some (Data.ofOctets name)
    | _ => none
  names.mergeSort Data.atMost

/-- List the names in directories, or the names of files. -/
def list (files : FileTree) (arguments : List Data) (input : Data) : Effect :=
  let (options, operands) := options [] arguments
  let operands := if operands.isEmpty then [['.']] else operands
  let shown := fun (name : Data) => given options 'a' || given options 'A' || name.head? != some '.'
  let dots : List Data := if given options 'a' then [['.'], ['.', '.']] else []
  operands.foldl (fun effect operand =>
    match files.entry? (pathOf operand) with
    | .ok (location, .directory) =>
        if given options 'd' then { effect with output := effect.output ++ operand ++ ['\n'] }
        else
          let heading := if 1 < operands.length then operand ++ [':', '\n'] else []
          let names := dots ++ (namesIn files location).filter shown
          { effect with output := effect.output ++ heading ++ unlines names }
    | .ok _ => { effect with output := effect.output ++ operand ++ ['\n'] }
    | .error fault =>
        { effect with
          status := 2
          errors := effect.errors ++ complain "ls"
            ("cannot access '" ++ String.ofList operand ++ "': " ++ faultText fault) })
    { rest := input }

/-- Change the files for each operand; what cannot be changed is complained about. -/
def changeEach (utility : String) (files : FileTree) (operands : List Data) (input : Data)
    (change : FileTree → Data → Except String FileTree) : Effect :=
  let (files, errors) := operands.foldl (fun (files, errors) operand =>
    match change files operand with
    | .ok files => (files, errors)
    | .error message => (files, errors ++ complain utility message)) (files, ([] : Data))
  { status := if errors.isEmpty then 0 else 1, errors, rest := input, files? := some files }

/-- Whether a path leads to anything. -/
def isThere (files : FileTree) (name : Data) : Bool := (files.entry? (pathOf name)).isOk

/-- Whether something can be put at a path: there is a directory for it. -/
def hasPlace (files : FileTree) (name : Data) : Bool :=
  files.isDirectory (pathOf (directoryName name))

/-- Make directories. -/
def makeDirectories (files : FileTree) (arguments : List Data) (input : Data) : Effect :=
  let (options, operands) := options ['m'] arguments
  changeEach "mkdir" files operands input fun files name =>
    let refuse (reason : String) : Except String FileTree :=
      .error ("cannot create directory '" ++ String.ofList name ++ "': " ++ reason)
    if isThere files name then
      if given options 'p' && files.isDirectory (pathOf name) then .ok files
      else refuse "File exists"
    else if given options 'p' || hasPlace files name then .ok (files.put (pathOf name) .directory)
    else refuse "No such file or directory"

/-- Remove files, or whole directories if that is asked for. -/
def remove (files : FileTree) (arguments : List Data) (input : Data) : Effect :=
  let (options, operands) := options [] arguments
  changeEach "rm" files operands input fun files name =>
    if !isThere files name then
      if given options 'f' then .ok files
      else .error ("cannot remove '" ++ String.ofList name ++ "': No such file or directory")
    else if files.isDirectory (pathOf name) && !given options 'r' && !given options 'R' then
      .error ("cannot remove '" ++ String.ofList name ++ "': Is a directory")
    else .ok (files.remove (pathOf name))

/-- Make files that are not there yet. -/
def touch (files : FileTree) (arguments : List Data) (input : Data) : Effect :=
  let (_, operands) := options [] arguments
  changeEach "touch" files operands input fun files name =>
    if isThere files name then .ok files
    else if hasPlace files name then .ok (files.put (pathOf name) (.file [] false))
    else .error ("cannot touch '" ++ String.ofList name ++ "': No such file or directory")

/-- Copy a file, or move it if the original is to go. -/
def transfer (utility : String) (moved : Bool) (files : FileTree) (arguments : List Data)
    (input : Data) : Effect :=
  let (_, operands) := options [] arguments
  match operands.reverse with
  | target :: sources =>
      changeEach utility files sources.reverse input fun files source =>
        match files.entry? (pathOf source) with
        | .ok (_, entry) =>
            let place := if files.isDirectory (pathOf target) then
                target ++ '/' :: baseName source []
              else target
            let copied := files.put (pathOf place) entry
            .ok (if moved then copied.remove (pathOf source) else copied)
        | .error fault =>
            .error ("cannot stat '" ++ String.ofList source ++ "': " ++ faultText fault)
  | [] => { status := 1, errors := complain utility "missing file operand", rest := input }

/-- Copy the input to the output and to files. -/
def tee (files : FileTree) (arguments : List Data) (input : Data) : Effect :=
  let (options, operands) := options [] arguments
  let effect := changeEach "tee" files operands [] fun files name =>
    if files.isDirectory (pathOf name) then .error (String.ofList name ++ ": Is a directory")
    else
      let before := if given options 'a' then
          (files.readOctets (pathOf name)).toOption.getD []
        else []
      .ok (files.put (pathOf name) (.file (before ++ Data.octets input) false))
  { effect with output := input }

end MarkupLint.Shell.Utility

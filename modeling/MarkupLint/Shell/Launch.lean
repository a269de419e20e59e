import MarkupLint.Shell.Utility
/-!
# Finding programs

A program is named by a path, or by a name that is looked up in the directories of the search
path. The utilities and the shell are installed in the usual places. A file is run if it may be
executed and its first line names an interpreter.
-/

namespace MarkupLint.Shell

/-- A program that was found. -/
inductive Program where
  | utility (name : String)
  | shell
  | file (path : Data) (content : Data)

/-- What is started: a utility, a script with its name and parameters, a script that is read from
the input, or nothing but a complaint. -/
inductive Launch where
  | utility (name : String) (arguments : List Data)
  | script (source name : Data) (parameters : List Data)
  | fromInput (name : Data)
  | refused (status : Nat) (message : Data)

namespace Launch

/-- The directories in which the installed programs are. -/
def installed : List Octets := [Octets.ofString "/bin", Octets.ofString "/usr/bin"]

/-- The names of the shell. -/
def shellNames : List String := ["sh", "dash", "bash"]

/-- The installed program at a path. -/
def installed? (path : Path) : Option Program :=
  let name := (path.octets.reverse.takeWhile (· != Path.slash)).reverse
  let directory := path.octets.take (path.octets.length - name.length - 1)
  let text := Utf8.decodeLossy name
  if !installed.contains directory then none
  else if shellNames.contains text then some Program.shell
  else if programNames.contains text then some (Program.utility text)
  else none

/-- The program at a path. -/
def programAt (files : FileTree) (path : Path) : Except SystemFault Program :=
  match files.entry? path with
  | .ok (_, .file content true) => .ok (.file (Data.ofOctets path.octets) (Data.ofOctets content))
  | .ok _ => .error .permissionDenied
  | .error .noSuchFile =>
      match installed? path with
      | some program => .ok program
      | none => .error .noSuchFile
  | .error fault => .error fault

/-- The directories in which programs are looked up. -/
def searchPath (world : World) : List Octets :=
  let text := (world.setting? "PATH").getD "/bin:/usr/bin"
  (text.splitOn ":").map Octets.ofString

/-- The program with a name: the first that can be started, or else what is wrong with one that
cannot, or else nothing. -/
def find (world : World) (name : Data) : Except SystemFault Program :=
  let octets := Data.octets name
  if octets.contains Path.slash then programAt world.files ⟨octets⟩
  else if name.isEmpty then .error .noSuchFile
  else if FileTree.longestName < octets.length then .error .nameTooLong
  else
    let tries := (searchPath world).map fun directory =>
      programAt world.files ((Path.mk directory).join ⟨octets⟩)
    match tries.findSome? Except.toOption with
    | some program => .ok program
    | none =>
        let refused := tries.any fun
          | .error .permissionDenied => true
          | _ => false
        .error (if refused then .permissionDenied else .noSuchFile)

/-- The path of the program with a name. -/
def pathOf? (world : World) (name : Data) : Option Data :=
  let octets := Data.octets name
  let candidates := if octets.contains Path.slash then [Path.mk octets]
    else (searchPath world).map fun directory => (Path.mk directory).join ⟨octets⟩
  (candidates.find? fun path => (programAt world.files path).isOk).map (Data.ofOctets ·.octets)

/-- How the shell is started with some arguments. -/
def ofShell (files : FileTree) (name : Data) : List Data → Launch
  | [] => .fromInput name
  | ('-' :: option :: options) :: rest =>
      if (option :: options).contains 'c' then
        match rest with
        | [] => .refused 2 (Utility.complain (String.ofList name) "0: -c requires an argument")
        | source :: parameters =>
            .script source (parameters.headD name) parameters.tail
      else ofShell files name rest
  | path :: parameters =>
      match files.readOctets ⟨Data.octets path⟩ with
      | .ok content => .script (Data.ofOctets content) path parameters
      | .error _ =>
          .refused 2 (Utility.complain (String.ofList name)
            ("0: cannot open " ++ String.ofList path ++ ": No such file"))

/-- The interpreter that the first line of a file names, with its argument. -/
def interpreter? (content : Data) : Option (Data × List Data) :=
  match content with
  | '#' :: '!' :: rest =>
      let isBlank := fun (character : Char) => character == ' ' || character == '\t'
      let line := ((rest.takeWhile (· != '\n')).dropWhile isBlank)
      let line := (line.reverse.dropWhile isBlank).reverse
      let path := line.takeWhile (!isBlank ·)
      let argument := (line.drop path.length).dropWhile isBlank
      if path.isEmpty then none
      else some (path, if argument.isEmpty then [] else [argument])
  | _ => none

/-- How a program is started with some arguments. -/
def ofProgram (world : World) : (depth : Nat) → (name : Data) → Program → List Data →
    Except SystemFault Launch
  | 0, _, _, _ => .error .linkLoop
  | depth + 1, name, program, arguments =>
      match program with
      | Program.shell => .ok (ofShell world.files name arguments)
      | Program.utility "env" =>
          match arguments.dropWhile (·.contains '=') with
          | [] => .ok (Launch.utility "env" [])
          | inner :: arguments => do
              ofProgram world depth inner (← find world inner) arguments
      | Program.utility tool => .ok (Launch.utility tool arguments)
      | Program.file path content =>
          match interpreter? content with
          | none => .error .notExecutable
          | some (interpreter, extra) => do
              let program ← programAt world.files ⟨Data.octets interpreter⟩
              ofProgram world depth interpreter program (extra ++ path :: arguments)

/-- How a command is started. -/
def ofCommand (world : World) (name : Data) (arguments : List Data) :
    Except SystemFault Launch := do
  ofProgram world 5 name (← find world name) arguments

end Launch

end MarkupLint.Shell

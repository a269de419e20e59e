import MarkupLint.Process.Basic
import MarkupLint.Shell.Pattern
import MarkupLint.Shell.Utility
/-!
# The state of a script

A script runs on a state with the files, the variables, the input still unread and everything
written so far. The state also says how the script is to be run, and on which of its lines it is.
-/

namespace MarkupLint.Shell

open Process (ExitStatus)

/-- Where a stream goes. -/
inductive Sink where
  | output
  | errors
  | nowhere
  | file (path : Path)

/-- Where the two streams that a command writes go, and whether its failure is asked about. -/
structure Context where
  output : Sink
  errors : Sink
  tested : Bool

/-- How a script goes on after a command. Loops are left or continued from within a number of
further loops. -/
inductive Flow where
  | next
  | leave (status : ExitStatus)
  | leaveFunction
  | breakLoop (within : Nat)
  | continueLoop (within : Nat)

/-- The variables of a script, with those that programs see and those of the current function. -/
structure Scope where
  bindings : List (Data × Data) := []
  exported : List Data := []
  locals : List Data := []
  functions : List (Data × Command) := []
  parameters : List Data := []

/-- How a script is run: its name, the number of its lines, whether it ends at the first failure,
whether a variable has to be set, and where its streams go. -/
structure Mode where
  name : Data
  lines : Nat := 1
  stopsOnFailure : Bool := false
  refusesUnset : Bool := false
  output : Sink := .output
  errors : Sink := .errors

/-- The state of a run. What was written comes in pieces, the last one first. -/
structure State where
  world : World
  scope : Scope
  mode : Mode
  line : Nat
  status : Nat
  aborted : Bool
  input : Data
  output : List Data
  errors : List Data

/-- A step of a run. -/
abbrev Run (α : Type) := StateM State α

namespace State

/-- The state at the start of a script. -/
def start (world : World) (name : Data) (input : Data) : State where
  world
  scope := {}
  mode := { name }
  line := 1
  status := 0
  aborted := false
  input
  output := []
  errors := []

/-- The number of the process that runs the script. -/
def processNumber : Data := "4242".toList

/-- What programs see of the world: the exported variables are part of the environment. -/
def outerWorld (state : State) : World :=
  let exported := state.scope.bindings.filter fun (name, _) => state.scope.exported.contains name
  let named := exported.map fun (name, value) =>
    (String.ofList name, Utf8.decodeLossy (Data.octets value))
  { state.world with environment := named ++ state.world.environment.filter fun (name, _) =>
      !(named.map Prod.fst).contains name }

/-- The value of a variable, an environment variable or a parameter. -/
def lookUp (state : State) (name : Data) : Option Data :=
  let parameters := state.scope.parameters
  match name with
  | ['?'] => some (Utility.numeral state.status)
  | ['#'] => some (Utility.numeral parameters.length)
  | ['$'] => some processNumber
  | ['@'] | ['*'] =>
      if parameters.isEmpty then none else some (Utility.joinWith [' '] parameters)
  | ['!'] | ['-'] => some []
  | ['0'] => some state.mode.name
  | name =>
      if name.all Char.isDigit then parameters[(Utility.number name).toNat - 1]?
      else match state.scope.bindings.lookup name with
        | some value => some value
        | none =>
            match state.world.setting? (String.ofList name) with
            | some value => some (Data.ofString value)
            | none =>
                if name = "PWD".toList then
                  some (Data.ofOctets state.world.files.workingPath.octets)
                else none

/-- The characters at which words are split. -/
def separators (state : State) : Data :=
  (state.scope.bindings.lookup "IFS".toList).getD [' ', '\t', '\n']

/-- The state with a variable set. -/
def assign (state : State) (name value : Data) : State :=
  { state with scope := { state.scope with
      bindings := (name, value) :: state.scope.bindings.filter (·.1 != name) } }

/-- The state in which a stream was written to. -/
def write (state : State) (sink : Sink) (data : Data) : State :=
  let place := match sink with
    | .output => state.mode.output
    | .errors => state.mode.errors
    | sink => sink
  match place with
  | .output => { state with output := data :: state.output }
  | .errors => { state with errors := data :: state.errors }
  | .nowhere => state
  | .file path =>
      let before := (state.world.files.readOctets path).toOption.getD []
      let files := state.world.files.put path (.file (before ++ Data.octets data) false)
      { state with world := { state.world with files } }

/-- The state with other files. -/
def withFiles (state : State) (files : FileTree) : State :=
  { state with world := { state.world with files } }

end State

/-! ### Words and fields -/

/-- A part of an expanded word: characters that stay together, text that is split, or values that
become fields of their own. -/
inductive Chunk where
  | fixed (field : Field)
  | split (text : Data)
  | separate (values : List Data)

namespace Chunk

/-- The whole text of a chunk. -/
def field : Chunk → Field
  | .fixed field => field
  | .split text => Field.ofData text false
  | .separate values => Field.ofData (Utility.joinWith [' '] values) true

/-- Add a chunk to the fields so far, the last one first, of which the current one may still
grow. -/
def addTo (separators : Data) (state : List Field × Option Field) :
    Chunk → List Field × Option Field
  | .fixed field => (state.1, some (state.2.getD [] ++ field))
  | .split text =>
      text.foldl (fun (fields, current) character =>
        if !separators.contains character then
          (fields, some (current.getD [] ++ [⟨character, false⟩]))
        else if Utility.isSpace character then (current.toList ++ fields, none)
        else (current.getD [] :: fields, none)) state
  | .separate [] => state
  | .separate (first :: rest) =>
      rest.foldl (fun (fields, current) value =>
        (current.toList ++ fields, some (Field.ofData value true)))
        (state.1, some (state.2.getD [] ++ Field.ofData first true))

/-- The fields that chunks make up. -/
def fields (separators : Data) (chunks : List Chunk) : List Field :=
  let (fields, current) := chunks.foldl (addTo separators) ([], none)
  (current.toList ++ fields).reverse

end Chunk

/-- The names that match a pattern in the directory at a written path, each after that path. -/
def Field.matchingNames (files : FileTree) (written : Data) (pattern : Field) : List Data :=
  let directory := if written.isEmpty then ['.'] else written
  match files.entry? (Utility.pathOf directory) with
  | .ok (location, .directory) =>
      let names := (Utility.namesIn files location).filter fun name =>
        (name.head? != some '.' || (Field.data pattern).head? == some '.') &&
          pattern.matchesName name
      names.map (written ++ ·)
  | _ => []

/-- The paths below a written one whose names match patterns one after the other. -/
def Field.matchingPaths (files : FileTree) : (written : Data) → List Field → List Data
  | written, [] => [written]
  | written, [pattern] => Field.matchingNames files written pattern
  | written, pattern :: rest =>
      if Field.isPattern pattern then
        (Field.matchingNames files written pattern).flatMap fun path =>
          matchingPaths files (path ++ ['/']) rest
      else matchingPaths files (written ++ Field.data pattern ++ ['/']) rest

/-- The paths that match a field, or the field itself. -/
def Field.paths (files : FileTree) (field : Field) : List Data :=
  if !field.isPattern then [Field.data field]
  else
    let parts := field.foldr (fun mark parts =>
      if mark.character = '/' then [] :: parts
      else match parts with
        | [] => [[mark]]
        | part :: rest => (mark :: part) :: rest) [[]]
    let found := (Field.matchingPaths files [] parts).filter (Utility.isThere files)
    if found.isEmpty then [Field.data field] else found

/-! ### Steps -/

namespace State

/-- Write to a stream. -/
def emit (sink : Sink) (data : Data) : Run Unit :=
  if data.isEmpty then pure () else modify (·.write sink data)

/-- Set the status of the last command. -/
def setStatus (status : Nat) : Run Unit := modify fun state => { state with status }

/-- Complain about the line that is run. -/
def complain (context : Context) (message : String) : Run Unit := do
  let state ← get
  emit context.errors (state.mode.name ++
    Data.ofString (": " ++ toString state.line ++ ": ") ++ message.toList ++ ['\n'])

/-- Complain about an expansion and give the script up. -/
def abort (context : Context) (message : String) : Run Unit := do
  complain context message
  modify fun state => { state with aborted := true, status := 2 }

/-- Run something with its output collected. -/
def collect {α : Type} (action : Run α) : Run (α × Data) := do
  let before ← get
  set { before with output := [], mode := { before.mode with output := .output } }
  let result ← action
  let after ← get
  set { after with
    output := before.output, mode := { after.mode with output := before.mode.output } }
  return (result, after.output.reverse.flatten)

/-- Run something as a process of its own: the variables and the mode are its own. -/
def separately (action : Run Flow) : Run Flow := do
  let before ← get
  let flow ← action
  modify fun state =>
    { state with
      scope := before.scope
      mode := before.mode
      line := before.line
      aborted := before.aborted
      world := { state.world with
        files := { state.world.files with
          workingDirectory := before.world.files.workingDirectory } } }
  match flow with
  | .leave (.code value) => setStatus value; return .next
  | .leave status => return .leave status
  | _ => return .next

/-- Take a line off the input; the second result tells whether it had an end. -/
def readLine : Run (Data × Bool) := do
  let input := (← get).input
  let line := input.takeWhile (· != '\n')
  let rest := input.drop line.length
  modify fun state => { state with input := rest.tail }
  return (line, !rest.isEmpty)

/-- Mark the characters that a backslash protects. A backslash at the very end stays. -/
def protect : Data → Field
  | ['\\'] => [⟨'\\', false⟩]
  | '\\' :: character :: rest => ⟨character, true⟩ :: protect rest
  | character :: rest => ⟨character, false⟩ :: protect rest
  | [] => []

/-- Take a line off the input, in which a backslash protects the character after it and joins
lines. -/
def readProtected : (fuel : Nat) → (read : Field) → Run (Field × Bool)
  | 0, read => return (read, false)
  | fuel + 1, read => do
      let (line, ended) ← readLine
      let marks := protect line
      match marks.getLast? with
      | some ⟨'\\', false⟩ =>
          if ended then readProtected fuel (read ++ marks.dropLast)
          else return (read ++ marks.dropLast, false)
      | _ => return (read ++ marks, ended)

/-- Distribute the words of a line over variables; the last one takes what is left. -/
def distribute (separators : Data) : List Data → Field → Run Unit
  | [], _ => pure ()
  | name :: names, field => do
      let separates := fun (mark : Mark) => !mark.quoted && separators.contains mark.character
      let isBlank := fun (mark : Mark) => separates mark && Utility.isSpace mark.character
      let field := field.dropWhile isBlank
      if names.isEmpty then
        modify (·.assign name (Field.data (field.reverse.dropWhile isBlank).reverse))
      else
        let first := field.takeWhile (!separates ·)
        modify (·.assign name (Field.data first))
        let rest := (field.drop first.length).dropWhile isBlank
        let rest := if rest.head?.any separates then rest.tail.dropWhile isBlank else rest
        distribute separators names rest

/-- What a utility does to the state. Where the shell carries it out itself, its complaints name
the line of the script. -/
def perform (context : Context) (builtin : Bool) (effect : Effect) : Run Unit := do
  modify fun state =>
    let state := { state with input := effect.rest, status := effect.status }
    match effect.files? with
    | some files => state.withFiles files
    | none => state
  emit context.output effect.output
  for line in Utility.lines effect.errors do
    if builtin then complain context (String.ofList line)
    else emit context.errors (line ++ ['\n'])

end State

end MarkupLint.Shell

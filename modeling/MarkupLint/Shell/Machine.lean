import MarkupLint.Shell.Arithmetic
import MarkupLint.Shell.Builtin
import MarkupLint.Shell.Launch
import MarkupLint.Shell.Parser
/-!
# Running scripts

The commands of a script are run one after the other, and those of a pipeline as well, each on the
output of the one before. Every call is made with less fuel; a script that runs out of it is
killed.
-/

namespace MarkupLint.Shell.Machine

open Process (ExitStatus)
open State (complain abort emit setStatus collect separately perform)

/-- Whether some redirection replaces the input. -/
def replacesInput (redirects : List Redirect) : Bool :=
  redirects.any fun
    | .redirect _ .readFrom _ | .redirect _ .readText _ => true
    | _ => false

/-- Run something with redirected streams once they are open. An input that was replaced is put
back afterwards unless it is to stay. -/
def redirected (redirects : List Redirect) (opened : Run (Option Context))
    (action : Context → Run Flow) (inputStays : Bool := false) : Run Flow := do
  let before := (← get).input
  let inner? ← opened
  let flow ← match inner? with
    | none => do setStatus 2; pure Flow.next
    | some inner => action inner
  if replacesInput redirects && !inputStays then
    modify fun state => { state with input := before }
  return flow

/-- Report the end of a program that was started, unless it is what one would expect. -/
def report (context : Context) (flow : Flow) : Run Flow := do
  match flow with
  | .leave status =>
      setStatus (Builtin.statusCode status)
      match status with
      | .signal number =>
          match Builtin.signalDescriptions.lookup number with
          | some description => emit context.errors (description.toList ++ ['\n'])
          | none => pure ()
      | .code _ => pure ()
      return .next
  | _ => return .next

/-- Leave the script if its last command failed where that is not asked about. -/
def checkFailure (context : Context) : Run Flow := do
  let state ← get
  if state.status != 0 && state.mode.stopsOnFailure && !context.tested then
    return .leave (.code state.status)
  else return .next

mutual

/-- Expand the parts of a word. -/
def expandParts : (fuel : Nat) → Context → List Part → Run (List Chunk)
  | 0, _, _ | _, _, [] => pure []
  | fuel + 1, context, part :: parts => do
      let chunks ← expandPart fuel context part
      return chunks ++ (← expandParts fuel context parts)

/-- Expand a part of a word. -/
def expandPart : (fuel : Nat) → Context → Part → Run (List Chunk)
  | 0, _, _ => pure []
  | fuel + 1, context, part => do
      let whole (quoted : Bool) (text : Data) : List Chunk :=
        [if quoted then .fixed (Field.ofData text true) else .split text]
      match part with
      | .literal text quoted => return [.fixed (Field.ofData text quoted)]
      | .parameter ['@'] true => return [.separate (← get).scope.parameters]
      | .parameter name quoted =>
          let state ← get
          match state.lookUp name with
          | some value => return whole quoted value
          | none =>
              if state.mode.refusesUnset && !([['@'], ['*']].contains name) then
                abort context (String.ofList name ++ ": parameter not set")
              return whole quoted []
      | .size name =>
          return [.split (Utility.numeral (((← get).lookUp name).getD []).length)]
      | .adjusted name emptyToo adjustment word quoted =>
          let value := (← get).lookUp name
          let isSet := value.any fun value => !(emptyToo && value.isEmpty)
          match adjustment, isSet with
          | .whenSet, false => return whole quoted []
          | .instead, true | .assigned, true | .refused, true =>
              return whole quoted (value.getD [])
          | .instead, false | .whenSet, true => expandParts fuel context word
          | .assigned, false =>
              let text := Field.data (← expandWhole fuel context word)
              modify (·.assign name text)
              return whole quoted text
          | .refused, false =>
              let text := Field.data (← expandWhole fuel context word)
              let reason := if text.isEmpty then "parameter not set" else String.ofList text
              abort context (String.ofList name ++ ": " ++ reason)
              return []
      | .trimmed name fromEnd longest pattern quoted =>
          let pattern ← expandWhole fuel context pattern
          let value := ((← get).lookUp name).getD []
          return whole quoted (pattern.trim fromEnd longest value)
      | .substitution script quoted =>
          let (_, written) ← collect (separately
            (statements fuel { context with output := .output } script))
          return whole quoted ((written.reverse.dropWhile (· == '\n')).reverse)
      | .arithmetic expression quoted =>
          let text := Field.data (← expandWhole fuel context expression)
          let state ← get
          let value := Arithmetic.run
            (fun name => (Utility.integer ((state.lookUp name).getD [])).1) text
          match value with
          | .ok (value, target) =>
              match target with
              | some name => modify (·.assign name (Utility.numeral value))
              | none => pure ()
              return whole quoted (Utility.numeral value)
          | .error message =>
              abort context ("arithmetic expression: " ++ message ++ ": \"" ++
                String.ofList text ++ "\"")
              return []

/-- Expand a word to a single field. -/
def expandWhole : (fuel : Nat) → Context → List Part → Run Field
  | 0, _, _ => pure []
  | fuel + 1, context, word => do
      return (← expandParts fuel context word).flatMap Chunk.field

/-- Expand words to arguments. -/
def expandWords : (fuel : Nat) → Context → List (List Part) → Run (List Data)
  | 0, _, _ | _, _, [] => pure []
  | fuel + 1, context, word :: words => do
      let chunks ← expandParts fuel context word
      let state ← get
      let fields := Chunk.fields state.separators chunks
      return fields.flatMap (Field.paths state.world.files) ++
        (← expandWords fuel context words)

/-- Set variables one after the other. -/
def assignAll : (fuel : Nat) → Context → List (Data × List Part) → Run Unit
  | 0, _, _ | _, _, [] => pure ()
  | fuel + 1, context, (name, word) :: rest => do
      let value := Field.data (← expandWhole fuel context word)
      modify (·.assign name value)
      assignAll fuel context rest

/-- Apply redirections; a file that cannot be opened is an error. -/
def redirect : (fuel : Nat) → Context → List Redirect → Run (Option Context)
  | 0, context, _ | _, context, [] => pure (some context)
  | fuel + 1, context, .redirect stream kind target :: rest => do
      let text := Field.data (← expandWhole fuel context target)
      let path := Utility.pathOf text
      let toSink (sink : Sink) : Context :=
        if stream = 2 then { context with errors := sink }
        else if stream = 1 then { context with output := sink }
        else context
      let files := (← get).world.files
      let fail (verb reason : String) : Run (Option Context) := do
        complain context ("cannot " ++ verb ++ " " ++ String.ofList text ++ ": " ++ reason)
        return none
      match kind with
      | .duplicate =>
          let sink :=
            if text = ['2'] then context.errors
            else if text = ['-'] then .nowhere
            else context.output
          redirect fuel (if stream = 0 then context else toSink sink) rest
      | .readText =>
          modify fun state => { state with input := text }
          redirect fuel context rest
      | .readFrom =>
          match Utility.contentOf files (← get).input text with
          | .ok content =>
              modify fun state => { state with input := content }
              redirect fuel context rest
          | .error .noSuchFile => fail "open" "No such file"
          | .error fault => fail "open" (Utility.faultText fault)
      | .writeTo | .appendTo =>
          match String.ofList text with
          | "/dev/null" => redirect fuel (toSink .nowhere) rest
          | "/dev/stderr" => redirect fuel (toSink context.errors) rest
          | "/dev/stdout" => redirect fuel (toSink context.output) rest
          | _ =>
              if files.isDirectory path then fail "create" "Is a directory"
              else if text.isEmpty || !Utility.hasPlace files text then
                fail "create" "Directory nonexistent"
              else
                let before := match files.entry? path with
                  | .ok (_, .file content executable) =>
                      FileEntry.file (if kind = .appendTo then content else []) executable
                  | _ => .file [] false
                modify (·.withFiles (files.put path before))
                redirect fuel (toSink (.file path)) rest

/-- Run a launch as a process of its own. -/
def execute : (fuel : Nat) → Context → Launch → Run Flow
  | 0, _, _ => pure (.leave (.signal 9))
  | fuel + 1, context, launch => do
      match launch with
      | .utility name arguments =>
          let state ← get
          match utility? state.outerWorld name arguments state.input with
          | some effect => perform context false effect
          | none => setStatus 127
          return .next
      | .refused status message =>
          emit context.errors message
          setStatus status
          return .next
      | .fromInput name =>
          let source := (← get).input
          modify fun state => { state with input := [] }
          execute fuel context (.script source name [])
      | .script source name parameters =>
          let flow ← separately do
            modify fun state =>
              { state with
                world := state.outerWorld
                scope := { parameters }
                mode := { state.mode with
                  name, lines := source.count '\n' + 1
                  stopsOnFailure := false, refusesUnset := false }
                line := 1
                status := 0 }
            runSource fuel { context with tested := false } source
          match flow with
          | .leave status => return .leave status
          | _ => return .next

/-- Run a source text in the current state. -/
def runSource : (fuel : Nat) → Context → (source : Data) → Run Flow
  | 0, _, _ => pure (.leave (.signal 9))
  | fuel + 1, context, source => do
      match Parser.script? source with
      | some script => statements fuel context script
      | none =>
          complain context "Syntax error"
          return .leave (.code 2)

/-- Run a function with parameters of its own. -/
def call : (fuel : Nat) → Context → (body : Command) → List Data → Run Flow
  | 0, _, _, _ => pure (.leave (.signal 9))
  | fuel + 1, context, body, parameters => do
      let before ← get
      set { before with scope := { before.scope with parameters, locals := [] } }
      let flow ← command fuel context body
      modify fun state =>
        let locals := state.scope.locals
        let restored := before.scope.bindings.filter fun known => locals.contains known.1
        let bindings := state.scope.bindings.filter fun known => !locals.contains known.1
        { state with scope := { state.scope with
            bindings := restored ++ bindings
            parameters := before.scope.parameters
            locals := before.scope.locals } }
      match flow with
      | .leave status => return .leave status
      | _ => return .next

/-- Run a program that is not part of the shell; a complaint about it starts with a heading. -/
def runProgram : (fuel : Nat) → Context → (heading : String) → (name : Data) → List Data → Run Flow
  | 0, _, _, _, _ => pure (.leave (.signal 9))
  | fuel + 1, context, heading, name, arguments => do
      let text := heading ++ String.ofList name
      let state ← get
      match Launch.ofCommand state.outerWorld name arguments with
      | .ok launch => report context (← execute fuel context launch)
      | .error .notExecutable =>
          let launch := Launch.ofShell state.world.files name (name :: arguments)
          report context (← execute fuel context launch)
      | .error .noSuchFile =>
          complain context (text ++ ": not found")
          setStatus 127
          return .next
      | .error fault =>
          complain context (text ++ ": " ++ Utility.faultText fault)
          setStatus 126
          return .next

/-- Run a command by its name. -/
def invoke : (fuel : Nat) → Context → (name : Data) → List Data → Run Flow
  | 0, _, _, _ => pure (.leave (.signal 9))
  | fuel + 1, context, name, arguments => do
      let state ← get
      match String.ofList name, arguments with
      | "exit", _ => Builtin.exit context arguments
      | "return", _ => Builtin.leaveFunction context arguments
      | "break", _ => return .breakLoop (Builtin.outerLoops arguments)
      | "continue", _ => return .continueLoop (Builtin.outerLoops arguments)
      | "kill", _ => Builtin.kill context arguments
      | "shift", _ => Builtin.shift context arguments
      | "set", _ =>
          setStatus 0
          Builtin.setParameters arguments
          return .next
      | "export", _ | "readonly", _ => Builtin.exportNames arguments
      | "local", _ => Builtin.makeLocal arguments
      | "unset", _ => Builtin.unset arguments
      | "read", _ => Builtin.read arguments
      | "cd", target :: _ => Builtin.changeDirectory context target
      | "cd", [] | "wait", _ | "umask", _ | "trap", _ | "ulimit", _ => setStatus 0; return .next
      | "exec", [] =>
          modify fun state =>
            { state with status := 0, mode := { state.mode with
                output := if context.output matches .output then state.mode.output
                  else context.output
                errors := if context.errors matches .errors then state.mode.errors
                  else context.errors } }
          return .next
      | "exec", program :: arguments =>
          match ← runProgram fuel context "exec: " program arguments with
          | .next => return .leave (.code (← get).status)
          | flow => return flow
      | "eval", _ => runSource fuel context (Utility.joinWith [' '] arguments)
      | ".", file :: _ =>
          match Utility.contentOf state.world.files state.input file with
          | .ok source => runSource fuel context source
          | .error _ =>
              complain context (".: cannot open " ++ String.ofList file ++ ": No such file")
              return .leave (.code 2)
      | "command", ['-', 'v'] :: target :: _ =>
          let text := String.ofList target
          if Builtin.names.contains text || Builtin.utilityNames.contains text ||
              (state.scope.functions.lookup target).isSome then
            emit context.output (target ++ ['\n'])
            setStatus 0
          else match Launch.pathOf? state.outerWorld target with
            | some path =>
                emit context.output (path ++ ['\n'])
                setStatus 0
            | none => setStatus 127
          return .next
      | "command", program :: arguments => invoke fuel context program arguments
      | text, _ =>
          match state.scope.functions.lookup name with
          | some body => call fuel context body arguments
          | none =>
              if Builtin.utilityNames.contains text then
                match utility? state.world text arguments state.input with
                | some effect => perform context true effect
                | none => setStatus 127
                return .next
              else runProgram fuel context "" name arguments

/-- Run the first branch of a conditional whose condition holds. -/
def firstBranch : (fuel : Nat) → Context → List (List Statement × List Statement) →
    List Statement → Run Flow
  | 0, _, _, _ => pure (.leave (.signal 9))
  | fuel + 1, context, [], otherwise => do
      setStatus 0
      statements fuel context otherwise
  | fuel + 1, context, (condition, body) :: rest, otherwise => do
      match ← statements fuel { context with tested := true } condition with
      | .next =>
          if (← get).status = 0 then statements fuel context body
          else firstBranch fuel context rest otherwise
      | flow => return flow

/-- Repeat a body for as long as a condition holds, or until it does. -/
def repeatWhile : (fuel : Nat) → Context → (ends : Bool) → (status : Nat) →
    (condition body : List Statement) → Run Flow
  | 0, _, _, _, _, _ => pure (.leave (.signal 9))
  | fuel + 1, context, ends, status, condition, body => do
      match ← statements fuel { context with tested := true } condition with
      | .next =>
          if ((← get).status = 0) = ends then setStatus status; return .next
          else match ← statements fuel context body with
            | .next | .continueLoop 0 =>
                repeatWhile fuel context ends (← get).status condition body
            | .breakLoop 0 => setStatus 0; return .next
            | .breakLoop (within + 1) => return .breakLoop within
            | .continueLoop (within + 1) => return .continueLoop within
            | flow => return flow
      | flow => return flow

/-- Run a body for each of some values of a variable. -/
def repeatFor : (fuel : Nat) → Context → (name : Data) → List Data → List Statement → Run Flow
  | 0, _, _, _, _ => pure (.leave (.signal 9))
  | _, _, _, [], _ => pure .next
  | fuel + 1, context, name, value :: values, body => do
      modify (·.assign name value)
      match ← statements fuel context body with
      | .next | .continueLoop 0 => repeatFor fuel context name values body
      | .breakLoop 0 => setStatus 0; return .next
      | .breakLoop (within + 1) => return .breakLoop within
      | .continueLoop (within + 1) => return .continueLoop within
      | flow => return flow

/-- Whether one of some patterns matches a text. -/
def anyMatches : (fuel : Nat) → Context → Data → List (List Part) → Run Bool
  | 0, _, _, _ | _, _, _, [] => pure false
  | fuel + 1, context, text, pattern :: patterns => do
      let field ← expandWhole fuel context pattern
      if field.matchesName text then return true
      else anyMatches fuel context text patterns

/-- Run the first branch with a pattern that matches. -/
def firstMatch : (fuel : Nat) → Context → Data → List (List (List Part) × List Statement) →
    Run Flow
  | 0, _, _, _ => pure (.leave (.signal 9))
  | _, _, _, [] => do setStatus 0; return .next
  | fuel + 1, context, text, (patterns, body) :: rest => do
      if ← anyMatches fuel context text patterns then
        setStatus 0
        statements fuel context body
      else firstMatch fuel context text rest

/-- Run a command with some of its variables set only for itself. -/
def withAssignments : (fuel : Nat) → Context → List (Data × List Part) → (name : Data) →
    List Data → Run Flow
  | 0, _, _, _, _ => pure (.leave (.signal 9))
  | fuel + 1, context, assignments, name, arguments => do
      if assignments.isEmpty then invoke fuel context name arguments
      else
        let before := (← get).scope
        assignAll fuel context assignments
        modify fun state =>
          { state with scope := { state.scope with
              exported := assignments.map Prod.fst ++ state.scope.exported } }
        let flow ← invoke fuel context name arguments
        let own := assignments.map Prod.fst
        modify fun state =>
          { state with scope := { state.scope with
              exported := before.exported
              bindings := before.bindings.filter (fun known => own.contains known.1) ++
                state.scope.bindings.filter fun known => !own.contains known.1 } }
        return flow

/-- Run a command. -/
def command : (fuel : Nat) → Context → Command → Run Flow
  | 0, _, _ => pure (.leave (.signal 9))
  | fuel + 1, context, .simple linesAfter assignments words redirects => do
      modify fun state => { state with line := state.mode.lines - linesAfter }
      if words.isEmpty then setStatus 0
      let arguments ← expandWords fuel context words
      if (← get).aborted then return .leave (.code 2)
      match arguments with
      | [] =>
          assignAll fuel context assignments
          if (← get).aborted then return .leave (.code 2)
          redirected redirects (redirect fuel context redirects) fun _ => pure .next
      | name :: arguments =>
          let run := fun context => withAssignments fuel context assignments name arguments
          redirected redirects (redirect fuel context redirects) run
            (name == "exec".toList && arguments.isEmpty)
  | fuel + 1, context, .group body redirects =>
      redirected redirects (redirect fuel context redirects) fun context =>
        statements fuel context body
  | fuel + 1, context, .subshell body redirects =>
      redirected redirects (redirect fuel context redirects) fun context =>
        separately (statements fuel context body)
  | fuel + 1, context, .conditional branches otherwise redirects =>
      redirected redirects (redirect fuel context redirects) fun context =>
        firstBranch fuel context branches otherwise
  | fuel + 1, context, .loop ends condition body redirects =>
      redirected redirects (redirect fuel context redirects) fun context =>
        repeatWhile fuel context ends 0 condition body
  | fuel + 1, context, .forEach name words body redirects =>
      redirected redirects (redirect fuel context redirects) fun context => do
        let values ← match words with
          | some words => expandWords fuel context words
          | none => pure (← get).scope.parameters
        setStatus 0
        repeatFor fuel context name values body
  | fuel + 1, context, .choice word branches redirects =>
      redirected redirects (redirect fuel context redirects) fun context => do
        let text := Field.data (← expandWhole fuel context word)
        firstMatch fuel context text branches
  | _ + 1, _, .definition name body => do
      modify fun state =>
        { state with status := 0, scope := { state.scope with
            functions := (name, body) :: state.scope.functions.filter (·.1 != name) } }
      return .next

/-- Run the commands of a pipeline, each but the last with its output collected for the next. -/
def piped : (fuel : Nat) → Context → List Command → Run Flow
  | 0, _, _ => pure (.leave (.signal 9))
  | _, _, [] => pure .next
  | fuel + 1, context, [last] => separately (command fuel context last)
  | fuel + 1, context, first :: rest => do
      let (_, written) ← collect (separately
        (command fuel { context with output := .output } first))
      let left := (← get).input
      modify fun state => { state with input := written }
      let flow ← piped fuel context rest
      modify fun state => { state with input := left }
      return flow

/-- Run a pipeline. -/
def pipeline : (fuel : Nat) → Context → Pipeline → Run Flow
  | 0, _, _ => pure (.leave (.signal 9))
  | fuel + 1, context, .pipeline negated commands => do
      let inner := { context with tested := context.tested || negated }
      let flow ← match commands with
        | [single] => command fuel inner single
        | commands => piped fuel inner commands
      match flow with
      | .next =>
          if negated then
            setStatus (if (← get).status = 0 then 1 else 0)
            return .next
          else checkFailure context
      | flow => return flow

/-- Run the pipelines that `&&` and `||` join. -/
def joined : (fuel : Nat) → Context → List (Bool × Pipeline) → Run Flow
  | 0, _, _ => pure (.leave (.signal 9))
  | _, _, [] => pure .next
  | fuel + 1, context, (whenTrue, next) :: rest => do
      if ((← get).status = 0) = whenTrue then
        let inner := { context with tested := context.tested || !rest.isEmpty }
        match ← pipeline fuel inner next with
        | .next => joined fuel context rest
        | flow => return flow
      else joined fuel context rest

/-- Run statements one after the other. -/
def statements : (fuel : Nat) → Context → List Statement → Run Flow
  | 0, _, _ => pure (.leave (.signal 9))
  | _, _, [] => pure .next
  | fuel + 1, context, .statement first rest :: more => do
      let inner := { context with tested := context.tested || !rest.isEmpty }
      match ← pipeline fuel inner first with
      | .next =>
          match ← joined fuel context rest with
          | .next => statements fuel context more
          | flow => return flow
      | flow => return flow

end

/-- The fuel of a run. -/
def plenty : Nat := 1000000

/-- The octets that can be written to a process that does not read. -/
def pipeCapacity : Nat := 65536

/-- Run a command on an input. -/
def run (world : World) (command : Process.Command) (input : Octets) : Process.Outcome :=
  let name := Data.ofString command.program
  let arguments := command.arguments.map Data.ofString
  if (name :: arguments).any (·.contains (Char.ofNat 0)) then .notStarted .nulInCommand
  else match Launch.ofCommand world name arguments with
    | .error fault => .notStarted fault
    | .ok launch =>
        let start := State.start world name (Data.ofOctets input)
        let (flow, state) := (execute plenty ⟨.output, .errors, false⟩ launch).run start
        let status := match flow with
          | .leave status => status
          | _ => .code state.status
        let feeding : Process.Feeding :=
          if state.input.isEmpty || input.length ≤ pipeCapacity then .complete
          else .failed .brokenPipe
        .finished ⟨status, Data.octets state.output.reverse.flatten,
          Data.octets state.errors.reverse.flatten, feeding⟩

end MarkupLint.Shell.Machine

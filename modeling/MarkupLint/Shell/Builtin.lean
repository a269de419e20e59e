import MarkupLint.Shell.State
/-!
# Builtin commands

The commands that the shell carries out itself because they change its own state.
-/

namespace MarkupLint.Shell.Builtin

open Process (ExitStatus)
open State (complain setStatus)

/-- What signals are called when they end a process. -/
def signalDescriptions : List (Nat × String) :=
  [(1, "Hangup"), (3, "Quit"), (4, "Illegal instruction"), (6, "Aborted"), (7, "Bus error"),
    (8, "Floating point exception"), (9, "Killed"), (10, "User defined signal 1"),
    (11, "Segmentation fault"), (12, "User defined signal 2"), (14, "Alarm clock"),
    (15, "Terminated")]

/-- The code that a shell reports for a status. -/
def statusCode : ExitStatus → Nat
  | .code value => value
  | .signal number => 128 + number

/-- The number of a signal as it is spelled after the sign of an option. -/
def signalNumber? (text : Data) : Option Nat :=
  if !text.isEmpty && text.all Char.isDigit then
    let value := (Utility.number text).toNat
    if value ≤ 64 then some value else none
  else
    let name := "SIG" ++ String.ofList (text.map Char.toUpper)
    (ExitStatus.signalNames.find? fun (_, known) => known == name).map Prod.fst

/-- The signal to send and the processes that it is for. -/
def killArguments : List Data → Option (Nat × List Data)
  | ['-', 's'] :: signal :: rest => (signalNumber? signal).map (·, rest)
  | ['-', '-'] :: rest => some (15, rest)
  | ('-' :: signal) :: rest => (signalNumber? signal).map (·, rest)
  | rest => some (15, rest)

/-- Send a signal; only one to the script itself is noticed. -/
def kill (context : Context) (arguments : List Data) : Run Flow := do
  match killArguments arguments with
  | some (signal, targets) =>
      if targets.contains State.processNumber || targets.contains ['0'] then
        if signal = 0 then setStatus 0; return .next
        else return .leave (.signal signal)
      else
        complain context "kill: No such process"
        setStatus 1
        return .next
  | none =>
      complain context ("kill: Illegal option " ++ String.ofList ((arguments.headD []).take 2))
      setStatus 2
      return .next

/-- The status that an argument spells, or the one of the last command. -/
def statusArgument (arguments : List Data) : Run (Except String Nat) := do
  match arguments with
  | [] => return .ok (← get).status
  | text :: _ =>
      match (String.ofList text).toNat? with
      | some value => return .ok (value % 256)
      | none => return .error ("Illegal number: " ++ String.ofList text)

/-- End the script. -/
def exit (context : Context) (arguments : List Data) : Run Flow := do
  match ← statusArgument arguments with
  | .ok status => return .leave (.code status)
  | .error message =>
      complain context ("exit: " ++ message)
      return .leave (.code 2)

/-- Leave a function with a status. -/
def leaveFunction (context : Context) (arguments : List Data) : Run Flow := do
  match ← statusArgument arguments with
  | .ok status => setStatus status; return .leaveFunction
  | .error message =>
      complain context ("return: " ++ message)
      return .leave (.code 2)

/-- The number of loops that a command is for, without the innermost one. -/
def outerLoops (arguments : List Data) : Nat :=
  ((arguments.head?.map Utility.number).getD 1).toNat - 1

/-- Drop parameters. -/
def shift (context : Context) (arguments : List Data) : Run Flow := do
  let amount := ((arguments.head?.map Utility.number).getD 1).toNat
  let state ← get
  if state.scope.parameters.length < amount then
    complain context "shift: can't shift that many"
    return .leave (.code 2)
  else
    set { state with
      status := 0
      scope := { state.scope with parameters := state.scope.parameters.drop amount } }
    return .next

/-- Apply the letters of an option of the mode. -/
def setMode (isOn : Bool) (letters : Data) (mode : Mode) : Mode :=
  letters.foldl (fun mode letter =>
    match letter with
    | 'e' => { mode with stopsOnFailure := isOn }
    | 'u' => { mode with refusesUnset := isOn }
    | _ => mode) mode

/-- Change the mode and the parameters. -/
def setParameters : List Data → Run Unit
  | [] => pure ()
  | ['-', '-'] :: rest =>
      modify fun state => { state with scope := { state.scope with parameters := rest } }
  | ('-' :: letters) :: rest => do
      modify fun state => { state with mode := setMode true letters state.mode }
      setParameters rest
  | ('+' :: letters) :: rest => do
      modify fun state => { state with mode := setMode false letters state.mode }
      setParameters rest
  | rest =>
      modify fun state => { state with scope := { state.scope with parameters := rest } }

/-- Set the variables among some arguments and yield the names of all of them. -/
def declare (arguments : List Data) : Run (List Data) := do
  arguments.mapM fun argument => do
    let name := argument.takeWhile (· != '=')
    if argument.contains '=' then modify (·.assign name (argument.drop (name.length + 1)))
    return name

/-- Show variables to programs. -/
def exportNames (arguments : List Data) : Run Flow := do
  let names ← declare arguments
  modify fun state =>
    { state with status := 0, scope := { state.scope with
        exported := names ++ state.scope.exported } }
  return .next

/-- Keep variables to the current function. -/
def makeLocal (arguments : List Data) : Run Flow := do
  let names := arguments.map (·.takeWhile (· != '='))
  modify fun state =>
    { state with status := 0, scope := { state.scope with locals := names ++ state.scope.locals } }
  let _ ← declare arguments
  return .next

/-- Forget variables and functions. -/
def unset (arguments : List Data) : Run Flow := do
  modify fun state =>
    { state with status := 0, scope := { state.scope with
        bindings := state.scope.bindings.filter fun known => !arguments.contains known.1
        functions := state.scope.functions.filter fun known => !arguments.contains known.1 } }
  return .next

/-- Read a line into variables. -/
def read (arguments : List Data) : Run Flow := do
  let (options, names) := Utility.options ['p'] arguments
  let (field, ended) ←
    if Utility.given options 'r' then do
      let (line, ended) ← State.readLine
      pure (Field.ofData line false, ended)
    else State.readProtected ((← get).input.length + 1) []
  State.distribute (← get).separators names field
  setStatus (if ended then 0 else 1)
  return .next

/-- Change the working directory. -/
def changeDirectory (context : Context) (target : Data) : Run Flow := do
  let files := (← get).world.files
  if files.isDirectory (Utility.pathOf target) then
    modify fun state => { state.withFiles (files.enter (Utility.pathOf target)) with status := 0 }
  else
    complain context ("cd: can't cd to " ++ String.ofList target)
    setStatus 2
  return .next

/-- The commands that the shell carries out itself and that are also utilities. -/
def utilityNames : List String := [":", "true", "false", "echo", "printf", "test", "[", "pwd"]

/-- The commands that only change the state of the shell. -/
def names : List String :=
  ["exit", "return", "break", "continue", "exec", "kill", "shift", "set", "export", "readonly",
    "local", "unset", "read", "cd", "wait", "umask", "trap", "ulimit", "eval", ".", "command"]

end MarkupLint.Shell.Builtin

import MarkupLint.Shell.Utility.Condition
import MarkupLint.Shell.Utility.Files
import MarkupLint.Shell.Utility.Search
import MarkupLint.Shell.Utility.StreamEditor
import MarkupLint.World
/-!
# Utilities

The small programs that scripts are made of, by their names.
-/

namespace MarkupLint.Shell

/-- The values of the named environment variables, or all of them with their names. -/
def Utility.environment (world : World) (names : List Data) (input : Data) : Effect :=
  if names.isEmpty then
    { output := Utility.unlines (world.environment.map fun (name, value) =>
        Data.ofString (name ++ "=" ++ value))
      rest := input }
  else
    let values := names.map fun name => world.setting? (String.ofList name)
    { status := if values.all Option.isSome then 0 else 1
      output := Utility.unlines (values.filterMap (·.map Data.ofString))
      rest := input }

/-- What the utility with a name does. -/
def utility? (world : World) (name : String) (arguments : List Data) (input : Data) :
    Option Effect :=
  let files := world.files
  let keep (effect : Effect) : Option Effect := some { effect with rest := input }
  match name with
  | "true" | ":" | "sleep" => keep {}
  | "false" => keep { status := 1 }
  | "echo" => keep { output := Utility.echo arguments }
  | "printf" => keep (Utility.format arguments)
  | "cat" => some (Utility.filter "cat" files (Utility.options [] arguments).2 input id)
  | "tac" => some (Utility.filter "tac" files arguments input fun text =>
      (Utility.wholeLines text).reverse.flatten)
  | "rev" => some (Utility.filter "rev" files arguments input fun text =>
      (Utility.wholeLines text).flatMap fun line =>
        let ended := line.getLast? = some '\n'
        if ended then line.dropLast.reverse ++ ['\n'] else line.reverse)
  | "wc" => some (Utility.count files arguments input)
  | "tr" => some (Utility.translate arguments input)
  | "sed" => some (Utility.edit files arguments input)
  | "grep" | "egrep" | "fgrep" => some (Utility.search name files arguments input)
  | "od" => some (Utility.dump files arguments input)
  | "head" => some (Utility.head files arguments input)
  | "tail" => some (Utility.tail files arguments input)
  | "sort" => some (Utility.sort files arguments input)
  | "uniq" => some (Utility.unique files arguments input)
  | "cut" => some (Utility.cut files arguments input)
  | "tee" => some (Utility.tee files arguments input)
  | "ls" => some (Utility.list files arguments input)
  | "mkdir" => some (Utility.makeDirectories files arguments input)
  | "rm" => some (Utility.remove files arguments input)
  | "touch" => some (Utility.touch files arguments input)
  | "cp" => some (Utility.transfer "cp" false files arguments input)
  | "mv" => some (Utility.transfer "mv" true files arguments input)
  | "basename" =>
      keep { output := Utility.baseName (arguments.headD []) (arguments.getD 1 []) ++ ['\n'] }
  | "dirname" => keep { output := Utility.directoryName (arguments.headD []) ++ ['\n'] }
  | "seq" => keep { output := Utility.sequence arguments }
  | "pwd" => keep { output := Data.ofOctets files.workingPath.octets ++ ['\n'] }
  | "printenv" | "env" => some (Utility.environment world arguments input)
  | "test" => keep (Utility.condition "test" files arguments)
  | "[" =>
      if arguments.getLast? != some [']'] then
        keep { status := 2, errors := Utility.complain "[" "missing ]" }
      else keep (Utility.condition "[" files arguments.dropLast)
  | _ => none

/-- The names of the utilities that are programs of their own. -/
def programNames : List String :=
  ["true", "false", "sleep", "echo", "printf", "cat", "tac", "rev", "wc", "tr", "sed", "grep",
    "egrep", "fgrep", "od", "head", "tail", "sort", "uniq", "cut", "tee", "ls", "mkdir", "rm",
    "touch", "cp", "mv", "basename", "dirname", "seq", "pwd", "printenv", "env", "test", "["]

end MarkupLint.Shell

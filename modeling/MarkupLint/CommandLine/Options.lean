import MarkupLint.Path
/-!
# Options

What the words of a command line ask for. Options may stand before and after the command; each has
a long name and may have a letter, and takes its value from the same word or from the next one.
Letters of options without a value may be written together. After two dashes every word is an
operand. Words are taken one by one, so of a request for help and a mistake the first one counts.
-/

namespace MarkupLint.CommandLine

/-- The form of a lint report. -/
inductive Format where
  | text
  | json
deriving DecidableEq, Repr

namespace Format

/-- The form with a name. -/
def ofName? : String → Option Format
  | "text" => some .text
  | "json" => some .json
  | _ => none

end Format

/-- What is to be done. -/
inductive Command where
  | lint (paths : List Path) (format : Format)
  | config (languageId : String)
  | serve
deriving DecidableEq, Repr

/-- The options that every command takes. -/
structure Options where
  projectRoot : Option Path := none
  preferences : Option Path := none
  engine : Option String := none
  engineArguments : List String := []
  verbose : Bool := false
deriving DecidableEq, Repr

/-- What a command line asks for. -/
inductive Wish where
  | run (options : Options) (command : Command)
  | help
  | version
  | mistake
deriving DecidableEq, Repr

/-- The options by name. -/
inductive OptionName where
  | projectRoot
  | preferences
  | engine
  | engineArgument
  | verbose
  | format
  | help
  | version
deriving DecidableEq, Repr

/-- Where in a command line an option stands: before the command, or after one. -/
inductive Place where
  | front
  | lint
  | config
  | serve
deriving DecidableEq, Repr

namespace OptionName

/-- The options with long names. -/
def longNames : List (String × OptionName) :=
  [("project-root", .projectRoot), ("preferences", .preferences), ("engine", .engine),
    ("engine-arg", .engineArgument), ("verbose", .verbose), ("format", .format),
    ("help", .help), ("version", .version)]

/-- The options with letters. -/
def letters : List (Char × OptionName) :=
  [('v', .verbose), ('f', .format), ('h', .help), ('V', .version)]

/-- Whether an option may stand at a place. -/
def standsAt (name : OptionName) (place : Place) : Bool :=
  match name with
  | .format => place = .lint
  | .version => place = .front
  | _ => true

/-- Whether an option takes a value. -/
def takesValue : OptionName → Bool
  | .verbose | .help | .version => false
  | _ => true

/-- Whether the value of an option may be a word that looks like an option. -/
def takesAnyWord (name : OptionName) : Bool := name = .engineArgument

end OptionName

/-- A stop before the end of the words. -/
inductive Stop where
  | help
  | version
  | mistake
deriving DecidableEq, Repr

/-- What has been read at one place: its options, the form of the report and the operands. -/
structure Reading where
  options : Options := {}
  format : Option Format := none
  operands : List String := []

namespace Reading

/-- A path, which must not be empty. -/
def pathOf (value : String) : Except Stop Path :=
  if value = "" then .error .mistake else .ok (Path.ofString value)

/-- Set something that may be set only once. -/
def once (before : Option α) (value : α) : Except Stop (Option α) :=
  match before with
  | none => .ok (some value)
  | some _ => .error .mistake

/-- Take an option with its value. -/
def takeValue (reading : Reading) (name : OptionName) (value : String) : Except Stop Reading := do
  let options := reading.options
  match name with
  | .projectRoot =>
      let projectRoot ← once options.projectRoot (← pathOf value)
      return { reading with options := { options with projectRoot } }
  | .preferences =>
      let preferences ← once options.preferences (← pathOf value)
      return { reading with options := { options with preferences } }
  | .engine =>
      let engine ← once options.engine value
      return { reading with options := { options with engine } }
  | .engineArgument =>
      let engineArguments := options.engineArguments ++ [value]
      return { reading with options := { options with engineArguments } }
  | .format =>
      match Format.ofName? value with
      | some format => return { reading with format := ← once reading.format format }
      | none => .error .mistake
  | .verbose | .help | .version => .error .mistake

/-- Take an option without a value. -/
def takeFlag (reading : Reading) (name : OptionName) : Except Stop Reading :=
  match name with
  | .verbose =>
      if reading.options.verbose then .error .mistake
      else .ok { reading with options := { reading.options with verbose := true } }
  | .help => .error .help
  | .version => .error .version
  | _ => .error .mistake

/-- Take an operand. -/
def takeOperand (reading : Reading) (place : Place) (word : String) : Except Stop Reading :=
  let reading := { reading with operands := reading.operands ++ [word] }
  match place with
  | .front | .serve => .error .mistake
  | .lint => if word = "" then .error .mistake else .ok reading
  | .config =>
      if ["html", "xml"].contains word && reading.operands.length = 1 then .ok reading
      else .error .mistake

end Reading

/-- The option with a long name at a place. -/
def longOption? (place : Place) (name : String) : Option OptionName :=
  (OptionName.longNames.lookup name).filter (·.standsAt place)

/-- The option with a letter at a place. -/
def letterOption? (place : Place) (letter : Char) : Option OptionName :=
  (OptionName.letters.lookup letter).filter (·.standsAt place)

/-- What a word of letters leads to: options taken, or an option that waits for its value. -/
def takeLetters (place : Place) (reading : Reading) :
    List Char → Except Stop (Reading × Option OptionName)
  | [] => .ok (reading, none)
  | letter :: rest =>
      match letterOption? place letter with
      | none => .error .mistake
      | some name =>
          if !name.takesValue then do
            let reading ← reading.takeFlag name
            takeLetters place reading rest
          else match rest with
            | [] => .ok (reading, some name)
            | '=' :: value => do
                return (← reading.takeValue name (String.ofList value), none)
            | value => do return (← reading.takeValue name (String.ofList value), none)

/-- What a word with a long name leads to. -/
def takeLong (place : Place) (reading : Reading) (word : List Char) :
    Except Stop (Reading × Option OptionName) :=
  let name := word.takeWhile (· != '=')
  match longOption? place (String.ofList name) with
  | none => .error .mistake
  | some option =>
      match word.drop name.length with
      | [] =>
          if option.takesValue then .ok (reading, some option)
          else do return (← reading.takeFlag option, none)
      | _ :: value =>
          if option.takesValue then do
            return (← reading.takeValue option (String.ofList value), none)
          else .error .mistake

/-- The commands by name. -/
def placeOf? : String → Option Place
  | "lint" => some .lint
  | "config" => some .config
  | "lsp" => some .serve
  | _ => none

/-- Whether words name something that there is help on. -/
def helpTopic : List String → Bool
  | [] => true
  | [topic] => (placeOf? topic).isSome || topic == "help"
  | _ => false

/-- How the reading of words at one place ends: with all words taken, or, in front, at a
command. -/
inductive Ending where
  | done (reading : Reading)
  | command (reading : Reading) (place : Place) (words : List String)

/-- Take the words that belong to one place. An option may be waiting for its value; operands only
are left after two dashes. -/
def takeWords (place : Place) (reading : Reading) (waiting : Option OptionName)
    (operandsOnly : Bool) : List String → Except Stop Ending
  | [] => if waiting.isSome then .error .mistake else .ok (.done reading)
  | word :: words =>
      match waiting with
      | some name =>
          let isOption := match word.toList with
            | '-' :: _ :: _ => true
            | _ => false
          if isOption && !name.takesAnyWord then .error .mistake
          else do
            let reading ← reading.takeValue name word
            takeWords place reading none false words
      | none =>
          if operandsOnly then do
            let reading ← reading.takeOperand place word
            takeWords place reading none true words
          else match word.toList with
            | ['-', '-'] => takeWords place reading none true words
            | '-' :: '-' :: long => do
                let (reading, waiting) ← takeLong place reading long
                takeWords place reading waiting false words
            | '-' :: letter :: letters => do
                let (reading, waiting) ← takeLetters place reading (letter :: letters)
                takeWords place reading waiting false words
            | _ =>
                if place = .front then
                  match placeOf? word with
                  | some inner => .ok (.command reading inner words)
                  | none =>
                      .error (if word = "help" && helpTopic words then .help else .mistake)
                else do
                  let reading ← reading.takeOperand place word
                  takeWords place reading none false words

/-- The options in front of a command with those after it, which count if both are stated. -/
def Options.override (front inner : Options) : Options where
  projectRoot := inner.projectRoot <|> front.projectRoot
  preferences := inner.preferences <|> front.preferences
  engine := inner.engine <|> front.engine
  engineArguments :=
    if inner.engineArguments.isEmpty then front.engineArguments else inner.engineArguments
  verbose := front.verbose || inner.verbose

/-- The command at a place with what was read there. -/
def commandOf (place : Place) (reading : Reading) : Except Stop Command :=
  match place, reading.operands with
  | .lint, [] => .error .mistake
  | .lint, paths => .ok (.lint (paths.map Path.ofString) (reading.format.getD .text))
  | .config, [languageId] => .ok (.config languageId)
  | .serve, [] => .ok .serve
  | _, _ => .error .mistake

/-- The options and the command of a command line. -/
def readWords (words : List String) : Except Stop (Options × Command) := do
  match ← takeWords .front {} none false words with
  | .done _ => .error .mistake
  | .command front place words =>
      match ← takeWords place {} none false words with
      | .done inner => return (front.options.override inner.options, ← commandOf place inner)
      | .command .. => .error .mistake

/-- What the words of a command line ask for. -/
def Wish.ofWords (words : List String) : Wish :=
  match readWords words with
  | .ok (options, command) => .run options command
  | .error .help => .help
  | .error .version => .version
  | .error .mistake => .mistake

end MarkupLint.CommandLine

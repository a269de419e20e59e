import MarkupLint.FileTree
import MarkupLint.Shell.Syntax
/-!
# What utilities have in common

A utility gets its arguments, the files and its input, and yields a status, what it writes, and the
input that it leaves unread. A utility that changes files yields the changed ones.
-/

namespace MarkupLint.Shell

/-- What a utility does. -/
structure Effect where
  status : Nat := 0
  output : Data := []
  errors : Data := []
  rest : Data := []
  files? : Option FileTree := none

namespace Utility

/-- A message on a line of its own. -/
def complain (name message : String) : Data := (name ++ ": " ++ message ++ "\n").toList

/-- The wording of a system fault without its number. -/
def faultText (fault : SystemFault) : String :=
  String.intercalate " (os error" ((fault.message.splitOn " (os error").take 1)

/-- The text of a number. -/
def numeral (value : Int) : Data := (toString value).toList

/-- The number that a text spells in decimal digits, perhaps with a sign. -/
def number? (text : Data) : Option Int :=
  match text with
  | '+' :: digits => if digits.head?.any Char.isDigit then (String.ofList digits).toInt? else none
  | text => (String.ofList text).toInt?

/-- The number that a text spells; anything else is zero. -/
def number (text : Data) : Int := (number? text).getD 0

/-- Whether a character is a blank or ends a line. -/
def isSpace (character : Char) : Bool :=
  [' ', '\t', '\n', '\r', '\x0b', '\x0c'].contains character

/-- The lines of a text without their ends. -/
def lines (text : Data) : List Data :=
  let step := fun (character : Char) (lines : List Data) =>
    if character = '\n' then [] :: lines
    else match lines with
      | [] => [[character]]
      | line :: others => (character :: line) :: others
  match text with
  | [] => []
  | text => if text.getLast? = some '\n' then text.dropLast.foldr step [[]] else text.foldr step [[]]

/-- Each text on a line of its own. -/
def unlines (lines : List Data) : Data := lines.flatMap (· ++ ['\n'])

/-- Texts with a separator between them. -/
def joinWith (separator : Data) (texts : List Data) : Data := (texts.intersperse separator).flatten

/-- The text of a named file, where a lone hyphen and the devices stand for streams. -/
def contentOf (files : FileTree) (input : Data) (name : Data) : Except SystemFault Data :=
  match String.ofList name with
  | "-" | "/dev/stdin" => .ok input
  | "/dev/null" => .ok []
  | _ => (files.readOctets ⟨Data.octets name⟩).map Data.ofOctets

/-- The texts of the named files, or the input where there are none, each with its name, and what
could not be read. -/
def sources (utility : String) (files : FileTree) (operands : List Data) (input : Data) :
    List (Data × Data) × Effect :=
  if operands.isEmpty then ([([], input)], {})
  else
    let (texts, rest, errors) := operands.foldl (fun (texts, input, errors) name =>
      match contentOf files input name with
      | .ok text => ((name, text) :: texts, if name = ['-'] then [] else input, errors)
      | .error fault =>
          (texts, input, errors ++
            complain utility (String.ofList name ++ ": " ++ faultText fault)))
      (([] : List (Data × Data)), input, ([] : Data))
    (texts.reverse, { status := if errors.isEmpty then 0 else 1, errors, rest })

/-- Apply a function to everything that a utility reads. -/
def filter (utility : String) (files : FileTree) (operands : List Data) (input : Data)
    (change : Data → Data) : Effect :=
  let (texts, effect) := sources utility files operands input
  { effect with output := change (texts.flatMap Prod.snd) }

/-- The options of an argument, each with its value, and the one at the end that still needs
one. -/
def cluster (takesValue : List Char) : Data → List (Char × Data) × Option Char
  | [] => ([], none)
  | option :: rest =>
      if takesValue.contains option then
        if rest.isEmpty then ([], some option) else ([(option, rest)], none)
      else
        let (options, pending) := cluster takesValue rest
        ((option, []) :: options, pending)

/-- The options among arguments, each with its value if it takes one, and the operands. -/
def options (takesValue : List Char) : List Data → List (Char × Data) × List Data
  | [] => ([], [])
  | ['-', '-'] :: rest => ([], rest)
  | ('-' :: first :: letters) :: rest =>
      match cluster takesValue (first :: letters), rest with
      | (read, some pending), value :: rest =>
          let (more, operands) := options takesValue rest
          (read ++ (pending, value) :: more, operands)
      | (read, _), rest =>
          let (more, operands) := options takesValue rest
          (read ++ more, operands)
  | operand :: rest =>
      let (more, operands) := options takesValue rest
      (more, operand :: operands)

/-- Whether an option was given. -/
def given (options : List (Char × Data)) (letter : Char) : Bool := options.any (·.1 == letter)

/-- The value of an option that was given last. -/
def valueOf (options : List (Char × Data)) (letter : Char) : Option Data :=
  (options.filter (·.1 == letter)).getLast?.map Prod.snd

end Utility

end MarkupLint.Shell

import MarkupLint.Shell.Regex.Reader
import MarkupLint.Shell.Utility.Filters
/-!
# Searching lines

The utility that finds the lines in which an expression occurs.
-/

namespace MarkupLint.Shell.Utility

/-- How lines are searched and what is shown of those that are found. -/
structure Query where
  expressions : List Regex
  inverted : Bool
  wholeLine : Bool
  wholeWord : Bool

namespace Query

/-- The expression that one line of a pattern spells. -/
def expression? (options : List (Char × Data)) (pattern : Data) : Option Regex := do
  let expression ←
    if given options 'F' then some (Regex.ofText pattern)
    else Regex.ofData? (given options 'E') pattern
  return if given options 'i' then expression.ignoringCase else expression

/-- The query for some options and patterns. -/
def ofOptions? (options : List (Char × Data)) (patterns : List Data) : Option Query := do
  let expressions ← patterns.mapM (expression? options)
  return ⟨expressions, given options 'v', given options 'x', given options 'w'⟩

/-- The expression that is sought, tied to words or to the line where that is asked for. -/
def sought (query : Query) (expression : Regex) : Regex :=
  let tied :=
    if query.wholeWord then .ofList [.atWordEdge, expression, .atWordEdge] else expression
  if query.wholeLine then .ofList [.atStart, tied, .atEnd] else tied

/-- Whether a line is found. -/
def finds (query : Query) (line : Data) : Bool :=
  query.inverted != query.expressions.any fun expression =>
    (query.sought expression).occurs line

/-- The parts of a line that match. -/
def parts (query : Query) (line : Data) : List Data :=
  query.expressions.flatMap fun expression =>
    (Regex.segmentsOf (query.sought expression) line).filterMap fun
      | .found here => if here.matched.isEmpty then none else some here.matched
      | .kept _ => none

end Query

/-- What is printed for a text, and how many of its lines are found. -/
def searchText (options : List (Char × Data)) (query : Query) (label text : Data) :
    Data × Nat :=
  let found := (lines text).zipIdx.filter fun (line, _) => query.finds line
  let most := ((valueOf options 'm').map fun size => (number size).toNat).getD found.length
  let found := found.take most
  let heading := if label.isEmpty then [] else label ++ [':']
  let output :=
    if given options 'q' then []
    else if given options 'l' then if found.isEmpty then [] else label ++ ['\n']
    else if given options 'L' then if found.isEmpty then label ++ ['\n'] else []
    else if given options 'c' then heading ++ numeral found.length ++ ['\n']
    else found.flatMap fun (line, index) =>
      let start := heading ++
        (if given options 'n' then numeral (Int.ofNat (index + 1)) ++ [':'] else [])
      if given options 'o' then (query.parts line).flatMap fun part => start ++ part ++ ['\n']
      else start ++ line ++ ['\n']
  (output, found.length)

/-- Search the lines of the input or of files. -/
def search (utility : String) (files : FileTree) (arguments : List Data) (input : Data) : Effect :=
  let (options, operands) := options ['e', 'm', 'A', 'B', 'C'] arguments
  let options := if utility = "egrep" then ('E', []) :: options
    else if utility = "fgrep" then ('F', []) :: options
    else options
  let patterns := (options.filter (·.1 == 'e')).map Prod.snd
  let (patterns, operands) := if patterns.isEmpty then (operands.take 1, operands.drop 1)
    else (patterns, operands)
  if patterns.isEmpty then
    { status := 2, errors := complain utility "missing pattern", rest := input }
  else match Query.ofOptions? options (patterns.flatMap (splitAt '\n')) with
    | none =>
        { status := 2, errors := complain utility "Invalid regular expression", rest := input }
    | some query =>
        let (texts, effect) := sources utility files operands input
        let labelled := given options 'l' || given options 'L' || given options 'H' ||
          (1 < operands.length && !given options 'h')
        let results := texts.map fun (name, text) =>
          let name := if name.isEmpty then "(standard input)".toList else name
          searchText options query (if labelled then name else []) text
        let isFound := results.any fun (_, count) => 0 < count
        { effect with
          output := results.flatMap Prod.fst
          errors := if given options 's' then [] else effect.errors
          status := if isFound && (given options 'q' || effect.status = 0) then 0
            else if effect.status != 0 then 2
            else 1 }

end MarkupLint.Shell.Utility

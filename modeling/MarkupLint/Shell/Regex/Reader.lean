import MarkupLint.Shell.Regex.Basic
/-!
# Reading regular expressions

There are two ways to write an expression. In the basic one the signs for groups, counts and
alternatives are written with a backslash before them, and in the extended one without.
-/

namespace MarkupLint.Shell.Regex

/-- The ranges of the named classes of characters. -/
def classes : List (String × List (Char × Char)) :=
  [("alpha", [('a', 'z'), ('A', 'Z')]), ("digit", [('0', '9')]),
    ("alnum", [('a', 'z'), ('A', 'Z'), ('0', '9')]), ("upper", [('A', 'Z')]),
    ("lower", [('a', 'z')]), ("space", [('\t', '\r'), (' ', ' ')]),
    ("blank", [('\t', '\t'), (' ', ' ')]), ("punct", [('!', '/'), (':', '@'), ('[', '\x60'),
      ('\x7b', '~')]), ("xdigit", [('0', '9'), ('a', 'f'), ('A', 'F')]),
    ("cntrl", [('\x00', '\x1f'), ('\x7f', '\x7f')]), ("print", [(' ', '~')]),
    ("graph", [('!', '~')])]

/-- The ranges of a class that a text names, and what follows the name. -/
def class? (text : Data) : Option (List (Char × Char) × Data) :=
  classes.findSome? fun (name, ranges) =>
    let written := name.toList ++ [':', ']']
    if written.isPrefixOf text then some (ranges, text.drop written.length) else none

/-- The ranges of a bracketed set up to its end, with what follows it. -/
def setRanges : (fuel : Nat) → (first : Bool) → List (Char × Char) → Data →
    Option (List (Char × Char) × Data)
  | 0, _, _, _ | _, _, _, [] => none
  | fuel + 1, first, ranges, text =>
      let single (character : Char) (rest : Data) :=
        setRanges fuel false ((character, character) :: ranges) rest
      match text with
      | ']' :: rest => if first then single ']' rest else some (ranges, rest)
      | '[' :: ':' :: rest =>
          match class? rest with
          | some (named, rest) => setRanges fuel false (named ++ ranges) rest
          | none => single '[' (':' :: rest)
      | '\\' :: 'n' :: rest => single '\n' rest
      | '\\' :: 't' :: rest => single '\t' rest
      | low :: '-' :: ']' :: rest => some ((low, low) :: ('-', '-') :: ranges, rest)
      | low :: '-' :: high :: rest => setRanges fuel false ((low, high) :: ranges) rest
      | character :: rest => single character rest
      | [] => none

/-- A bracketed set after its opening bracket, which one of some signs may negate. -/
def set? (negations : List Char) (text : Data) : Option (Accepts × Data) :=
  let negated := text.head?.any negations.contains
  let text := if negated then text.tail else text
  (setRanges (text.length + 1) true [] text).map fun (ranges, rest) => (.oneOf negated ranges, rest)

/-- The ranges of the characters of words. -/
def wordRanges : List (Char × Char) := [('a', 'z'), ('A', 'Z'), ('0', '9'), ('_', '_')]

/-- The ranges of blanks. -/
def blankRanges : List (Char × Char) := [('\t', '\r'), (' ', ' ')]

/-- What a letter after a backslash stands for. -/
def escaped (character : Char) : Regex :=
  match character with
  | 'n' => .one (.exactly '\n')
  | 't' => .one (.exactly '\t')
  | 'w' => .one (.oneOf false wordRanges)
  | 'W' => .one (.oneOf true wordRanges)
  | 's' => .one (.oneOf false blankRanges)
  | 'S' => .one (.oneOf true blankRanges)
  | 'b' | '<' | '>' => .atWordEdge
  | character =>
      if '1' ≤ character && character ≤ '9' then .again (character.toNat - 48)
      else .one (.exactly character)

/-- A sign of the grammar or a character of the text. -/
inductive Token where
  | opening
  | closing
  | bar
  | times (least : Nat) (most : Option Nat)
  | item (expression : Regex)
  | caret
  | dollar

/-- A number and what follows it. -/
def digits (text : Data) : Option Nat × Data :=
  let written := text.takeWhile Char.isDigit
  (if written.isEmpty then none
    else some (written.foldl (fun value digit => value * 10 + (digit.toNat - 48)) 0),
    text.drop written.length)

/-- The bounds of a count after its opening, with what follows its end. -/
def bounds? (extended : Bool) (text : Data) : Option (Token × Data) :=
  let (least, rest) := digits text
  let (most, rest) := match rest with
    | ',' :: rest => digits rest
    | rest => (least, rest)
  match extended, rest with
  | true, '\x7d' :: rest | false, '\\' :: '\x7d' :: rest =>
      some (.times (least.getD 0) most, rest)
  | _, _ => none

/-- The next token. -/
def token (extended : Bool) : (text : Data) → Option (Token × Data)
  | [] => none
  | '[' :: rest =>
      match set? ['^'] rest with
      | some (accepts, rest) => some (.item (.one accepts), rest)
      | none => some (.item (.one (.exactly '[')), rest)
  | '.' :: rest => some (.item (.one .any), rest)
  | '*' :: rest => some (.times 0 none, rest)
  | '^' :: rest => some (.caret, rest)
  | '$' :: rest => some (.dollar, rest)
  | '\\' :: character :: rest =>
      match extended, character with
      | false, '(' => some (.opening, rest)
      | false, ')' => some (.closing, rest)
      | false, '|' => some (.bar, rest)
      | false, '+' => some (.times 1 none, rest)
      | false, '?' => some (.times 0 (some 1), rest)
      | false, '\x7b' => bounds? false rest
      | _, character => some (.item (escaped character), rest)
  | character :: rest =>
      match extended, character with
      | true, '(' => some (.opening, rest)
      | true, ')' => some (.closing, rest)
      | true, '|' => some (.bar, rest)
      | true, '+' => some (.times 1 none, rest)
      | true, '?' => some (.times 0 (some 1), rest)
      | true, '\x7b' => (bounds? true rest).or (some (.item (.one (.exactly character)), rest))
      | _, character => some (.item (.one (.exactly character)), rest)

/-- The tokens of an expression. -/
def tokens (extended : Bool) : (fuel : Nat) → Data → Option (List Token)
  | 0, _ | _, [] => some []
  | fuel + 1, text => do
      let (first, rest) ← token extended text
      return first :: (← tokens extended fuel rest)

/-- Whether a branch ends where these tokens start. -/
def endsBranch : List Token → Bool
  | [] | .closing :: _ | .bar :: _ => true
  | _ => false

mutual

/-- Read alternatives, given the number of groups that were opened. -/
def alternatives (extended : Bool) : (fuel opened : Nat) → List Token →
    Option (Regex × Nat × List Token)
  | 0, _, _ => none
  | fuel + 1, opened, tokens => do
      let (first, opened, rest) ← branch extended fuel opened [] tokens
      match rest with
      | .bar :: rest =>
          let (second, opened, rest) ← alternatives extended fuel opened rest
          return (.either first second, opened, rest)
      | rest => return (first, opened, rest)

/-- Read the expressions of a branch; those read so far come last one first. A sign that cannot
have its meaning where it stands is a character. -/
def branch (extended : Bool) : (fuel opened : Nat) → List Regex → List Token →
    Option (Regex × Nat × List Token)
  | 0, _, _, _ => none
  | fuel + 1, opened, read, tokens =>
      match tokens, read with
      | .opening :: rest, read => do
          let number := opened + 1
          let (inner, opened, rest) ← alternatives extended fuel number rest
          match rest with
          | .closing :: rest =>
              branch extended fuel opened (.group number inner :: read) rest
          | _ => none
      | .times least most :: rest, .atStart :: read =>
          if extended then branch extended fuel opened (.atStart :: read) rest
          else if least = 0 && most.isNone then
            branch extended fuel opened (.one (.exactly '*') :: .atStart :: read) rest
          else none
      | .times least most :: rest, inner :: read =>
          branch extended fuel opened (.repeated inner least most :: read) rest
      | .times least most :: rest, [] =>
          if least = 0 && most.isNone then
            branch extended fuel opened [.one (.exactly '*')] rest
          else none
      | .item expression :: rest, read => branch extended fuel opened (expression :: read) rest
      | .caret :: rest, read =>
          let meant := extended || read.isEmpty
          branch extended fuel opened ((if meant then .atStart else .one (.exactly '^')) :: read)
            rest
      | .dollar :: rest, read =>
          let meant := extended || endsBranch rest
          branch extended fuel opened ((if meant then .atEnd else .one (.exactly '$')) :: read)
            rest
      | rest, read => some (.ofList read.reverse, opened, rest)

end

/-- The expression that a text spells. -/
def ofData? (extended : Bool) (text : Data) : Option Regex := do
  let tokens ← tokens extended (text.length + 1) text
  let (expression, _, rest) ← alternatives extended (4 * tokens.length + 4) 0 tokens
  if rest.isEmpty then return expression else none

end MarkupLint.Shell.Regex

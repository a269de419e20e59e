import MarkupLint.Shell.Syntax
/-!
# Reading scripts

Words, quotes, expansions and the compound commands are read by functions that take the characters
left and return what they read with the characters after it, or nothing where the script is
malformed. Every call is made with less fuel.
-/

namespace MarkupLint.Shell.Parser

/-- Whether a character may start a name. -/
def startsName (character : Char) : Bool := character.isAlpha || character == '_'

/-- Whether a character may continue a name. -/
def continuesName (character : Char) : Bool := character.isAlphanum || character == '_'

/-- Whether a character ends a word unless it is quoted. -/
def endsWord (character : Char) : Bool :=
  [' ', '\t', '\n', ';', '&', '|', '<', '>', '(', ')'].contains character

/-- Drop blanks and joined lines. -/
def skipBlanks : Data → Data
  | ' ' :: rest | '\t' :: rest => skipBlanks rest
  | '\\' :: '\n' :: rest => skipBlanks rest
  | rest => rest

/-- Drop blanks, comments and line ends. -/
def skipLines (fuel : Nat) (text : Data) : Data :=
  match fuel, skipBlanks text with
  | fuel + 1, '\n' :: rest => skipLines fuel rest
  | fuel + 1, '#' :: rest => skipLines fuel (rest.dropWhile (· != '\n'))
  | _, rest => rest

/-- Drop blanks and a comment. -/
def skipComment (text : Data) : Data :=
  match skipBlanks text with
  | '#' :: rest => rest.dropWhile (· != '\n')
  | rest => rest

/-- The words with a meaning of their own where a command may start. -/
def reservedWords : List String :=
  ["if", "then", "elif", "else", "fi", "while", "until", "do", "done", "for", "case", "esac",
    "in", "\x7b", "\x7d", "!"]

/-- The word with a meaning of its own at the start of a text, if there is one. -/
def reserved? (text : Data) : Option (String × Data) :=
  let word := String.ofList (text.takeWhile (!endsWord ·))
  if reservedWords.contains word then some (word, text.drop word.length) else none

/-- Add a character to the parts of a word, the last part first. -/
def addCharacter (character : Char) (quoted : Bool) : List Part → List Part
  | .literal text other :: rest =>
      if quoted = other then .literal (text ++ [character]) other :: rest
      else .literal [character] quoted :: .literal text other :: rest
  | parts => .literal [character] quoted :: parts

/-- Pass over a given word. -/
def expect (word : String) (text : Data) : Option Data :=
  match reserved? text with
  | some (found, rest) => if found = word then some rest else none
  | none => none

/-- The characters up to the end of an arithmetic expansion. -/
def arithmeticText : (depth : Nat) → Data → Option (Data × Data)
  | 0, ')' :: ')' :: rest => some ([], rest)
  | depth, '(' :: rest =>
      (arithmeticText (depth + 1) rest).map fun (text, rest) => ('(' :: text, rest)
  | depth + 1, ')' :: rest =>
      (arithmeticText depth rest).map fun (text, rest) => (')' :: text, rest)
  | depth, character :: rest =>
      (arithmeticText depth rest).map fun (text, rest) => (character :: text, rest)
  | _, [] => none

/-- The script between back quotes. -/
def backquoted : Data → Option (Data × Data)
  | '\x60' :: rest => some ([], rest)
  | '\\' :: character :: rest =>
      (backquoted rest).map fun (text, rest) =>
        if ['\x60', '\\', '$'].contains character then (character :: text, rest)
        else ('\\' :: character :: text, rest)
  | character :: rest => (backquoted rest).map fun (text, rest) => (character :: text, rest)
  | [] => none

/-- The number of the stream that a redirection names, which stands right before it. -/
def streamNumber (text : Data) : Option Nat × Data :=
  match text with
  | digit :: '<' :: rest =>
      if digit.isDigit then (some (digit.toNat - 48), '<' :: rest) else (none, text)
  | digit :: '>' :: rest =>
      if digit.isDigit then (some (digit.toNat - 48), '>' :: rest) else (none, text)
  | _ => (none, text)

/-- Split an assignment off the front of a word. -/
def assignment? (word : List Part) : Option (Data × List Part) :=
  match word with
  | .literal text false :: rest =>
      let name := text.takeWhile continuesName
      match name, text.drop name.length with
      | first :: _, '=' :: value =>
          if startsName first then
            some (name, if value.isEmpty then rest else .literal value false :: rest)
          else none
      | _, _ => none
  | _ => none

/-- The name, number or sign at the start of an expansion in braces. -/
def parameterName (text : Data) : Data :=
  match text with
  | [] => []
  | first :: _ =>
      if startsName first then text.takeWhile continuesName
      else if first.isDigit then text.takeWhile Char.isDigit
      else if ['@', '*', '#', '?', '$', '!', '-'].contains first then [first]
      else []

/-- The signs of the adjustments of an expansion. -/
def adjustments : List (Char × Adjustment) :=
  [('-', .instead), ('=', .assigned), ('?', .refused), ('+', .whenSet)]

/-- Where a quoted text ends: at a quote, at a brace, or at the end of all. -/
inductive Ending where
  | quote
  | brace
  | text
deriving DecidableEq

/-- The sign at which a quoted text ends. -/
def Ending.sign? : Ending → Option Char
  | .quote => some '"'
  | .brace => some '\x7d'
  | .text => none

/-- The characters that a backslash protects in a quoted text. -/
def Ending.protects : Ending → List Char
  | .quote => ['$', '\x60', '"', '\\']
  | .brace => ['$', '\x60', '"', '\\', '\x7d']
  | .text => ['$', '\x60', '\\']

/-- The characters of a part that needs no expansion. -/
def literalText : Part → Data
  | .literal text _ => text
  | _ => []

/-- Whether a part is a quoted literal. -/
def isQuotedLiteral : Part → Bool
  | .literal _ quoted => quoted
  | _ => false

/-- The lines of a text up to one that consists of a delimiter, and what comes after it; the lines
may be indented. -/
def linesUpTo (indented : Bool) (delimiter : Data) : (fuel : Nat) → Data → Data × Data
  | 0, text => (text, [])
  | fuel + 1, text =>
      let text := if indented then text.dropWhile (· == '\t') else text
      let line := text.takeWhile (· != '\n')
      let rest := text.drop (line.length + 1)
      if line = delimiter || text.isEmpty then ([], rest)
      else
        let (lines, rest) := linesUpTo indented delimiter fuel rest
        (line ++ '\n' :: lines, rest)

/-- The text up to a line that consists of a delimiter. -/
def textUpTo (indented : Bool) (delimiter text : Data) : Data × Data :=
  linesUpTo indented delimiter (text.length + 1) text

/-- The name at the start of the definition of a function, and what follows its parentheses. -/
def definitionStart? (text : Data) : Option (Data × Data) :=
  let name := text.takeWhile continuesName
  if !name.head?.any startsName then none
  else match skipBlanks (text.drop name.length) with
    | '(' :: rest => match skipBlanks rest with
        | ')' :: rest => some (name, rest)
        | _ => none
    | _ => none

mutual

/-- Read an expansion after its dollar sign; nothing but the sign itself may be meant. -/
def dollar : (fuel : Nat) → (quoted : Bool) → Data → Option (Part × Data)
  | 0, _, _ => none
  | fuel + 1, quoted, text =>
      match text with
      | '(' :: '(' :: rest => do
          let (expression, rest) ← arithmeticText 0 rest
          let (parts, _) ← quotedParts fuel .text [] expression
          return (.arithmetic parts quoted, rest)
      | '(' :: rest => do
          let (script, rest) ← statements fuel [] rest
          match skipLines fuel rest with
          | ')' :: rest => return (.substitution script quoted, rest)
          | _ => none
      | '\x7b' :: '#' :: '\x7d' :: rest => some (.parameter ['#'] quoted, rest)
      | '\x7b' :: '#' :: rest =>
          let name := rest.takeWhile (· != '\x7d')
          match rest.drop name.length with
          | _ :: rest => some (.size name, rest)
          | [] => none
      | '\x7b' :: rest =>
          let name := parameterName rest
          if name.isEmpty then none
          else braced fuel quoted name (rest.drop name.length)
      | character :: rest =>
          if startsName character then
            let name := (character :: rest).takeWhile continuesName
            some (.parameter name quoted, (character :: rest).drop name.length)
          else if character.isDigit || ['@', '*', '#', '?', '$', '!', '-'].contains character then
            some (.parameter [character] quoted, rest)
          else some (.literal ['$'] quoted, text)
      | [] => some (.literal ['$'] quoted, [])

/-- Read the rest of a braced expansion after its name. -/
def braced : (fuel : Nat) → (quoted : Bool) → (name : Data) → Data → Option (Part × Data)
  | 0, _, _, _ => none
  | fuel + 1, quoted, name, text => do
      let adjusted (emptyToo : Bool) (sign : Char) (rest : Data) : Option (Part × Data) := do
        let adjustment ← adjustments.lookup sign
        let (parts, rest) ←
          if quoted then quotedParts fuel .brace [] rest else word fuel true [] rest
        return (.adjusted name emptyToo adjustment parts quoted, rest)
      let trimmed (fromEnd longest : Bool) (rest : Data) : Option (Part × Data) := do
        let (parts, rest) ← word fuel true [] rest
        return (.trimmed name fromEnd longest parts quoted, rest)
      match text with
      | '\x7d' :: rest => return (.parameter name quoted, rest)
      | '%' :: '%' :: rest => trimmed true true rest
      | '%' :: rest => trimmed true false rest
      | '#' :: '#' :: rest => trimmed false true rest
      | '#' :: rest => trimmed false false rest
      | ':' :: sign :: rest => adjusted true sign rest
      | sign :: rest => adjusted false sign rest
      | [] => none

/-- Read up to the end of what is quoted. -/
def quotedParts : (fuel : Nat) → Ending → (parts : List Part) → Data → Option (List Part × Data)
  | 0, _, _, _ => none
  | fuel + 1, ending, parts, text =>
      match text with
      | [] => if ending = .text then some (parts.reverse, []) else none
      | '$' :: rest => do
          let (part, rest) ← dollar fuel true rest
          quotedParts fuel ending (part :: parts) rest
      | '\x60' :: rest => do
          let (script, rest) ← backquoted rest
          let (script, _) ← statements fuel [] script
          quotedParts fuel ending (.substitution script true :: parts) rest
      | '\\' :: '\n' :: rest => quotedParts fuel ending parts rest
      | '\\' :: character :: rest =>
          if ending.protects.contains character then
            quotedParts fuel ending (addCharacter character true parts) rest
          else
            quotedParts fuel ending (addCharacter character true (addCharacter '\\' true parts))
              rest
      | character :: rest =>
          if some character = ending.sign? then some (parts.reverse, rest)
          else quotedParts fuel ending (addCharacter character true parts) rest

/-- Read a word, or what stands in braces; the parts read so far come last one first. -/
def word : (fuel : Nat) → (inBraces : Bool) → (parts : List Part) → Data →
    Option (List Part × Data)
  | 0, _, _, _ => none
  | fuel + 1, inBraces, parts, text =>
      match text with
      | [] => if inBraces then none else some (parts.reverse, [])
      | '\x27' :: rest =>
          let inner := rest.takeWhile (· != '\x27')
          match rest.drop inner.length with
          | _ :: rest => word fuel inBraces (.literal inner true :: parts) rest
          | [] => none
      | '"' :: rest => do
          let (inner, rest) ← quotedParts fuel .quote [] rest
          let inner := if inner.isEmpty then [.literal [] true] else inner
          word fuel inBraces (inner.reverse ++ parts) rest
      | '\\' :: '\n' :: rest => word fuel inBraces parts rest
      | '\\' :: character :: rest => word fuel inBraces (addCharacter character true parts) rest
      | '$' :: rest => do
          let (part, rest) ← dollar fuel false rest
          word fuel inBraces (part :: parts) rest
      | '\x60' :: rest => do
          let (script, rest) ← backquoted rest
          let (script, _) ← statements fuel [] script
          word fuel inBraces (.substitution script false :: parts) rest
      | character :: rest =>
          if inBraces && character = '\x7d' then some (parts.reverse, rest)
          else if !inBraces && endsWord character then some (parts.reverse, text)
          else word fuel inBraces (addCharacter character false parts) rest

/-- Read a redirection, if one follows. -/
def redirect? : (fuel : Nat) → Data → Option (Option (Redirect × Data))
  | 0, _ => none
  | fuel + 1, text =>
      let (number, text) := streamNumber (skipBlanks text)
      let target (stream : Nat) (kind : RedirectKind) (rest : Data) : Option (Redirect × Data) := do
        let (parts, rest) ← word fuel false [] (skipBlanks rest)
        if parts.isEmpty then none
        else return (.redirect (number.getD stream) kind parts, rest)
      match text with
      | '<' :: '<' :: rest => some do
          let (indented, rest) := match rest with
            | '-' :: rest => (true, rest)
            | rest => (false, rest)
          let (delimiter, rest) ← word fuel false [] (skipBlanks rest)
          let line := rest.takeWhile (· != '\n')
          let (text, after) := textUpTo indented (delimiter.flatMap literalText)
            (rest.drop (line.length + 1))
          let parts ←
            if delimiter.any isQuotedLiteral then some [.literal text true]
            else (quotedParts fuel .text [] text).map Prod.fst
          return (.redirect (number.getD 0) .readText parts, line ++ '\n' :: after)
      | '<' :: '&' :: rest => some (target 0 .duplicate rest)
      | '<' :: rest => some (target 0 .readFrom rest)
      | '>' :: '&' :: rest => some (target 1 .duplicate rest)
      | '>' :: '>' :: rest => some (target 1 .appendTo rest)
      | '>' :: '|' :: rest => some (target 1 .writeTo rest)
      | '>' :: rest => some (target 1 .writeTo rest)
      | _ => none

/-- Read the redirections after a compound command. -/
def redirects : (fuel : Nat) → (read : List Redirect) → Data → Option (List Redirect × Data)
  | 0, _, _ => none
  | fuel + 1, read, text =>
      match redirect? fuel text with
      | some (some (redirect, rest)) => redirects fuel (redirect :: read) rest
      | some none => none
      | none => some (read.reverse, text)

/-- Read the rest of a simple command. -/
def simple : (fuel linesAfter : Nat) → List (Data × List Part) → List (List Part) →
    List Redirect → Data → Option (Command × Data)
  | 0, _, _, _, _, _ => none
  | fuel + 1, linesAfter, assignments, words, read, text =>
      match redirect? fuel text with
      | some (some (redirect, rest)) => simple fuel linesAfter assignments words (redirect :: read) rest
      | some none => none
      | none => do
          let (parts, rest) ← word fuel false [] (skipComment text)
          match parts, words, assignment? parts with
          | [], [], _ =>
              if assignments.isEmpty && read.isEmpty then none
              else return (.simple linesAfter assignments.reverse [] read.reverse, rest)
          | [], _, _ =>
              return (.simple linesAfter assignments.reverse words.reverse read.reverse, rest)
          | _, [], some assignment =>
              simple fuel linesAfter (assignment :: assignments) [] read rest
          | parts, words, _ => simple fuel linesAfter assignments (parts :: words) read rest

/-- Read the branches of a conditional after its first word. -/
def branches : (fuel : Nat) → List (List Statement × List Statement) → Data →
    Option ((List (List Statement × List Statement) × List Statement) × Data)
  | 0, _, _ => none
  | fuel + 1, read, text => do
      let (condition, rest) ← statements fuel [] text
      let rest ← expect "then" (skipLines fuel rest)
      let (body, rest) ← statements fuel [] rest
      let read := (condition, body) :: read
      match reserved? (skipLines fuel rest) with
      | some ("elif", rest) => branches fuel read rest
      | some ("else", rest) =>
          let (otherwise, rest) ← statements fuel [] rest
          let rest ← expect "fi" (skipLines fuel rest)
          return ((read.reverse, otherwise), rest)
      | some ("fi", rest) => return ((read.reverse, []), rest)
      | _ => none

/-- Read the patterns of a branch of a choice up to the closing parenthesis. -/
def patterns : (fuel : Nat) → List (List Part) → Data → Option (List (List Part) × Data)
  | 0, _, _ => none
  | fuel + 1, read, text => do
      let (pattern, rest) ← word fuel false [] (skipBlanks text)
      match skipBlanks rest with
      | '|' :: rest => patterns fuel (pattern :: read) rest
      | ')' :: rest => return ((pattern :: read).reverse, rest)
      | _ => none

/-- Read the branches of a choice up to its end. -/
def choices : (fuel : Nat) → List (List (List Part) × List Statement) → Data →
    Option ((List (List (List Part) × List Statement)) × Data)
  | 0, _, _ => none
  | fuel + 1, read, text =>
      let text := skipLines fuel text
      match expect "esac" text with
      | some rest => some (read.reverse, rest)
      | none => do
          let text := match text with
            | '(' :: rest => rest
            | rest => rest
          let (alternatives, rest) ← patterns fuel [] text
          let (body, rest) ← statements fuel [] rest
          let read := (alternatives, body) :: read
          match skipLines fuel rest with
          | ';' :: ';' :: rest => choices fuel read rest
          | rest =>
              let rest ← expect "esac" rest
              return (read.reverse, rest)

/-- Read words up to the end of a line or statement. -/
def wordList : (fuel : Nat) → List (List Part) → Data → Option (List (List Part) × Data)
  | 0, _, _ => none
  | fuel + 1, read, text => do
      let (parts, rest) ← word fuel false [] (skipBlanks text)
      if parts.isEmpty then return (read.reverse, rest)
      else wordList fuel (parts :: read) rest

/-- Read the body of a loop. -/
def loopBody : (fuel : Nat) → Data → Option (List Statement × Data)
  | 0, _ => none
  | fuel + 1, text => do
      let text := match skipBlanks text with
        | ';' :: rest => rest
        | rest => rest
      let rest ← expect "do" (skipLines fuel text)
      let (body, rest) ← statements fuel [] rest
      let rest ← expect "done" (skipLines fuel rest)
      return (body, rest)

/-- Read a command. -/
def command : (fuel : Nat) → Data → Option (Command × Data)
  | 0, _ => none
  | fuel + 1, text =>
      let text := skipBlanks text
      match text, reserved? text with
      | '(' :: rest, _ => do
          let (body, rest) ← statements fuel [] rest
          match skipLines fuel rest with
          | ')' :: rest =>
              let (read, rest) ← redirects fuel [] rest
              return (.subshell body read, rest)
          | _ => none
      | _, some ("\x7b", rest) => do
          let (body, rest) ← statements fuel [] rest
          let rest ← expect "\x7d" (skipLines fuel rest)
          let (read, rest) ← redirects fuel [] rest
          return (.group body read, rest)
      | _, some ("if", rest) => do
          let ((branches, otherwise), rest) ← branches fuel [] rest
          let (read, rest) ← redirects fuel [] rest
          return (.conditional branches otherwise read, rest)
      | _, some ("while", rest) => do
          let (condition, rest) ← statements fuel [] rest
          let (body, rest) ← loopBody fuel rest
          let (read, rest) ← redirects fuel [] rest
          return (.loop false condition body read, rest)
      | _, some ("until", rest) => do
          let (condition, rest) ← statements fuel [] rest
          let (body, rest) ← loopBody fuel rest
          let (read, rest) ← redirects fuel [] rest
          return (.loop true condition body read, rest)
      | _, some ("for", rest) => do
          let rest := skipBlanks rest
          let name := rest.takeWhile continuesName
          let rest := rest.drop name.length
          let (words, rest) ← match expect "in" (skipLines fuel rest) with
            | some rest => (wordList fuel [] rest).map fun (words, rest) => (some words, rest)
            | none => some (none, rest)
          let (body, rest) ← loopBody fuel rest
          let (read, rest) ← redirects fuel [] rest
          return (.forEach name words body read, rest)
      | _, some ("case", rest) => do
          let (subject, rest) ← word fuel false [] (skipBlanks rest)
          let rest ← expect "in" (skipLines fuel rest)
          let (branches, rest) ← choices fuel [] rest
          let (read, rest) ← redirects fuel [] rest
          return (.choice subject branches read, rest)
      | _, some ("in", _) | _, none =>
          match definitionStart? text with
          | some (name, rest) => do
              let (body, rest) ← command fuel (skipLines fuel rest)
              return (.definition name body, rest)
          | none => simple fuel (text.count '\n') [] [] [] text
      | _, some _ => none

/-- Read the commands of a pipeline. -/
def commands : (fuel : Nat) → List Command → Data → Option (List Command × Data)
  | 0, _, _ => none
  | fuel + 1, read, text => do
      let (first, rest) ← command fuel text
      match skipBlanks rest with
      | '|' :: '|' :: _ => return ((first :: read).reverse, rest)
      | '|' :: rest => commands fuel (first :: read) (skipLines fuel rest)
      | _ => return ((first :: read).reverse, rest)

/-- Read a pipeline. -/
def pipeline : (fuel : Nat) → Data → Option (Pipeline × Data)
  | 0, _ => none
  | fuel + 1, text =>
      match reserved? (skipBlanks text) with
      | some ("!", rest) =>
          (pipeline fuel rest).map fun (.pipeline negated commands, rest) =>
            (.pipeline (!negated) commands, rest)
      | _ => (commands fuel [] text).map fun (commands, rest) =>
          (.pipeline false commands, rest)

/-- Read the pipelines that `&&` and `||` join to the first one. -/
def joined : (fuel : Nat) → List (Bool × Pipeline) → Data → Option ((List (Bool × Pipeline)) × Data)
  | 0, _, _ => none
  | fuel + 1, read, text =>
      match skipBlanks text with
      | '&' :: '&' :: rest => do
          let (next, rest) ← pipeline fuel (skipLines fuel rest)
          joined fuel ((true, next) :: read) rest
      | '|' :: '|' :: rest => do
          let (next, rest) ← pipeline fuel (skipLines fuel rest)
          joined fuel ((false, next) :: read) rest
      | _ => some (read.reverse, text)

/-- Read statements up to a word or sign that ends them. -/
def statements : (fuel : Nat) → List Statement → Data → Option (List Statement × Data)
  | 0, _, _ => none
  | fuel + 1, read, text =>
      let text := skipLines fuel text
      let ends := ["then", "elif", "else", "fi", "do", "done", "esac", "\x7d"]
      match text, reserved? text with
      | [], _ => some (read.reverse, [])
      | ')' :: _, _ | ';' :: ';' :: _, _ => some (read.reverse, text)
      | _, reservedWord =>
          if reservedWord.any (ends.contains ·.1) then some (read.reverse, text)
          else do
            let (first, rest) ← pipeline fuel text
            let (rest, after) ← joined fuel [] rest
            let read := .statement first rest :: read
            match skipComment after with
            | ';' :: ';' :: _ => return (read.reverse, skipComment after)
            | ';' :: after | '&' :: after | '\n' :: after => statements fuel read after
            | after => return (read.reverse, after)

end

/-- Read a whole script. -/
def script? (text : Data) : Option (List Statement) :=
  match statements (4 * text.length + 4) [] text with
  | some (statements, []) => some statements
  | _ => none

end MarkupLint.Shell.Parser

import MarkupLint.Shell.Regex.Reader
import MarkupLint.Shell.Utility.Filters
/-!
# The stream editor

The editor runs a list of commands on each line of its input. The line being worked on is the
pattern space; what is left of it after the last command is printed unless the editor is quiet.
-/

namespace MarkupLint.Shell.Utility.Editor

/-- A line that a command may be meant for. -/
inductive Address where
  | line (number : Nat)
  | lastLine
  | matching (expression : Regex)

/-- The lines that a command is meant for. -/
structure Selector where
  first : Option Address := none
  last : Option Address := none
  negated : Bool := false

/-- What a command does. -/
inductive Action where
  | substitute (expression : Regex) (replacement : Data) (which : Nat) (everywhere shown : Bool)
  | translate (before after : Data)
  | print (firstLine : Bool)
  | delete (firstLine : Bool)
  | number
  | quit (silently : Bool) (status : Nat)
  | insert (text : Data)
  | append (text : Data)
  | change (text : Data)
  | next (joined : Bool)
  | hold (added : Bool)
  | recall (added : Bool)
  | exchange
  | label (name : Data)
  | jump (name : Data) (whenChanged : Bool)
  | opening
  | closing

/-- A command. -/
structure Command where
  selector : Selector
  action : Action

/-! ### Reading commands -/

/-- A text up to a delimiter, in which a backslash protects the delimiter. -/
def upTo (delimiter : Char) : Data → Option (Data × Data)
  | [] => none
  | '\\' :: character :: rest => do
      let (text, after) ← upTo delimiter rest
      return (if character = delimiter then character :: text else '\\' :: character :: text, after)
  | character :: rest =>
      if character = delimiter then some ([], rest)
      else (upTo delimiter rest).map fun (text, after) => (character :: text, after)

/-- Drop blanks. -/
def skip (text : Data) : Data := text.dropWhile fun character => character == ' ' || character == '\t'

/-- Read an address, if there is one. -/
def address? (extended : Bool) (text : Data) : Option (Option Address × Data) :=
  match text with
  | '$' :: rest => some (some .lastLine, rest)
  | '/' :: rest => do
      let (expression, rest) ← upTo '/' rest
      return (some (.matching (← Regex.ofData? extended expression)), rest)
  | text =>
      let digits := text.takeWhile Char.isDigit
      if digits.isEmpty then some (none, text)
      else some (some (.line (Utility.number digits).toNat), text.drop digits.length)

/-- Read the lines that a command is meant for. -/
def selector? (extended : Bool) (text : Data) : Option (Selector × Data) := do
  let (first, rest) ← address? extended text
  let (last, rest) ← match skip rest with
    | ',' :: rest => address? extended (skip rest)
    | rest => some (none, rest)
  let rest := skip rest
  return match rest with
    | '!' :: rest => (⟨first, last, true⟩, skip rest)
    | rest => (⟨first, last, false⟩, rest)

/-- Read the text of an insertion up to the end of its line; a backslash joins lines. -/
def insertedText : (text : Data) → Data × Data
  | [] => ([], [])
  | '\\' :: character :: rest =>
      let (text, rest) := insertedText rest
      (character :: text, rest)
  | '\n' :: rest => ([], rest)
  | character :: rest =>
      let (text, rest) := insertedText rest
      (character :: text, rest)

/-- The start of the text of an insertion, after its letter. -/
def insertionStart (text : Data) : Data :=
  match skip text with
  | '\\' :: '\n' :: rest => rest
  | '\\' :: rest => skip rest
  | rest => rest

/-- The characters that a list of them for a translation stands for. -/
def translationList : Data → Data
  | '\\' :: 'n' :: rest => '\n' :: translationList rest
  | '\\' :: character :: rest => character :: translationList rest
  | character :: rest => character :: translationList rest
  | [] => []

/-- Read an action. -/
def action? (extended : Bool) (text : Data) : Option (Action × Data) :=
  let name (rest : Data) : Data × Data :=
    let rest := skip rest
    let name := rest.takeWhile fun character => !([' ', ';', '\n', '\x7d'].contains character)
    (name, rest.drop name.length)
  let status (rest : Data) : Nat × Data :=
    let digits := (skip rest).takeWhile Char.isDigit
    ((Utility.number digits).toNat, (skip rest).drop digits.length)
  match text with
  | 's' :: delimiter :: rest => do
      let (expression, rest) ← upTo delimiter rest
      let (replacement, rest) ← upTo delimiter rest
      let flags := rest.takeWhile Char.isAlphanum
      let which := (Utility.number (flags.filter Char.isDigit)).toNat
      let expression ← Regex.ofData? extended expression
      let expression := if flags.contains 'I' || flags.contains 'i' then expression.ignoringCase
        else expression
      return (.substitute expression replacement (max which 1) (flags.contains 'g')
        (flags.contains 'p'), rest.drop flags.length)
  | 'y' :: delimiter :: rest => do
      let (before, rest) ← upTo delimiter rest
      let (after, rest) ← upTo delimiter rest
      return (.translate (translationList before) (translationList after), rest)
  | 'a' :: rest =>
      let (text, rest) := insertedText (insertionStart rest)
      some (.append text, rest)
  | 'i' :: rest =>
      let (text, rest) := insertedText (insertionStart rest)
      some (.insert text, rest)
  | 'c' :: rest =>
      let (text, rest) := insertedText (insertionStart rest)
      some (.change text, rest)
  | 'q' :: rest => let (status, rest) := status rest; some (.quit false status, rest)
  | 'Q' :: rest => let (status, rest) := status rest; some (.quit true status, rest)
  | ':' :: rest => let (name, rest) := name rest; some (.label name, rest)
  | 'b' :: rest => let (name, rest) := name rest; some (.jump name false, rest)
  | 't' :: rest => let (name, rest) := name rest; some (.jump name true, rest)
  | 'p' :: rest => some (.print false, rest)
  | 'P' :: rest => some (.print true, rest)
  | 'd' :: rest => some (.delete false, rest)
  | 'D' :: rest => some (.delete true, rest)
  | '=' :: rest => some (.number, rest)
  | 'n' :: rest => some (.next false, rest)
  | 'N' :: rest => some (.next true, rest)
  | 'h' :: rest => some (.hold false, rest)
  | 'H' :: rest => some (.hold true, rest)
  | 'g' :: rest => some (.recall false, rest)
  | 'G' :: rest => some (.recall true, rest)
  | 'x' :: rest => some (.exchange, rest)
  | '\x7b' :: rest => some (.opening, rest)
  | '\x7d' :: rest => some (.closing, rest)
  | _ => none

/-- Read the commands of a script. -/
def commands? (extended : Bool) : (fuel : Nat) → Data → Option (List Command)
  | 0, _ => none
  | fuel + 1, text =>
      let text := text.dropWhile fun character => character == ';' || isSpace character
      match text with
      | [] => some []
      | '#' :: rest => commands? extended fuel (rest.dropWhile (· != '\n'))
      | text => do
          let (selector, rest) ← selector? extended text
          let (action, rest) ← action? extended rest
          return ⟨selector, action⟩ :: (← commands? extended fuel rest)

/-! ### Running commands -/

/-- The state of the editor. What was printed comes last line first, with whether a line end
follows. -/
structure State where
  space : Data
  kept : Data := []
  line : Nat := 1
  rest : List Data
  endsLine : Bool
  printed : List (Data × Bool) := []
  queued : List Data := []
  changed : Bool := false
  ranges : List Nat := []

namespace State

/-- Whether the line being worked on is the last one. -/
def atLast (state : State) : Bool := state.rest.isEmpty

/-- Print a text on a line of its own. -/
def print (state : State) (text : Data) : State :=
  { state with printed := (text, true) :: state.printed }

/-- Print the pattern space; the last line ends the way it did in the input. -/
def printSpace (state : State) : State :=
  { state with printed := (state.space, !state.atLast || state.endsLine) :: state.printed }

/-- Finish a line: print what is left unless the editor is quiet, and what was queued. -/
def finish (state : State) (quiet : Bool) : State :=
  let state := if quiet then state else state.printSpace
  { state.queued.foldl print state with queued := [] }

/-- Whether an address means the current line. -/
def isAt (state : State) : Address → Bool
  | .line number => state.line == number
  | .lastLine => state.atLast
  | .matching expression => expression.occurs state.space

/-- Whether a selector means the current line, where ranges that are open are remembered by the
place of their command. -/
def selects (state : State) (place : Nat) (selector : Selector) : Bool × State :=
  let (selected, state) : Bool × State :=
    match selector.first, selector.last with
    | none, _ => (true, state)
    | some first, none => (state.isAt first, state)
    | some first, some last =>
        if state.ranges.contains place then
          let closes : Bool := match last with
            | .line number => number ≤ state.line
            | last => state.isAt last
          (true, if closes then { state with ranges := state.ranges.filter (· != place) } else state)
        else if state.isAt first then
          let single : Bool := match last with
            | .line number => number ≤ state.line
            | .lastLine => state.atLast
            | .matching _ => false
          (true, if single then state else { state with ranges := place :: state.ranges })
        else (false, state)
  (selected != selector.negated, state)

end State

/-- What a replacement stands for after a match. -/
def replacementText (here : Regex.Match) : Data → Data
  | [] => []
  | '\\' :: 'n' :: rest => '\n' :: replacementText here rest
  | '\\' :: 't' :: rest => '\t' :: replacementText here rest
  | '\\' :: character :: rest =>
      if character.isDigit then
        let text := if character = '0' then here.matched
          else (here.groups.lookup (character.toNat - 48)).getD []
        text ++ replacementText here rest
      else character :: replacementText here rest
  | '&' :: rest => here.matched ++ replacementText here rest
  | character :: rest => character :: replacementText here rest

/-- Replace a numbered match in a text, and with it all the later ones if that is asked for. The
second result tells whether there was one. -/
def substitute (expression : Regex) (replacement : Data) (which : Nat) (everywhere : Bool)
    (text : Data) : Data × Bool :=
  let (pieces, count) := (Regex.segmentsOf expression text).foldl (fun (pieces, count) segment =>
    match segment with
    | .kept text => (text :: pieces, count)
    | .found here =>
        let meant := count + 1 = which || (everywhere && which ≤ count)
        ((if meant then replacementText here replacement else here.matched) :: pieces, count + 1))
    (([] : List Data), 0)
  (pieces.reverse.flatten, which ≤ count)

/-- The first line of a text, and what follows its end. -/
def firstLine (text : Data) : Data × Option Data :=
  let line := text.takeWhile (· != '\n')
  (line, (text.drop line.length).tail?)

/-- The place after the command that closes a block. -/
def afterBlock : (depth place : Nat) → List Command → Nat
  | _, place, [] => place
  | depth, place, command :: rest =>
      match command.action, depth with
      | .closing, 0 => place + 1
      | .closing, depth + 1 => afterBlock depth (place + 1) rest
      | .opening, depth => afterBlock (depth + 1) (place + 1) rest
      | _, depth => afterBlock depth (place + 1) rest

/-- The place of a label. -/
def placeOf (commands : List Command) (name : Data) : Nat :=
  if name.isEmpty then commands.length
  else commands.findIdx fun command => match command.action with
    | .label known => known == name
    | _ => false

/-- How the editor goes on after a command: at a place, with the next line, with the first command
on what is left, or not at all. -/
inductive Course where
  | goOn (place : Nat)
  | nextLine
  | again
  | stop (status : Nat)

/-- Take the next line, joined to the current one or instead of it. -/
def advance (state : State) (joined : Bool) : Option State :=
  match state.rest with
  | [] => none
  | line :: rest =>
      some { state with
        space := if joined then state.space ++ '\n' :: line else line
        line := state.line + 1
        rest }

/-- Carry out a command that stands at a place. -/
def perform (quiet : Bool) (commands : List Command) (place : Nat) (command : Command)
    (state : State) : Course × State :=
  let (selected, state) := state.selects place command.selector
  let onwards := Course.goOn (place + 1)
  match selected, command.action with
  | false, .opening => (.goOn (afterBlock 0 (place + 1) (commands.drop (place + 1))), state)
  | false, _ => (onwards, state)
  | true, .substitute expression replacement which everywhere shown =>
      let (space, replaced) := substitute expression replacement which everywhere state.space
      let state := { state with space, changed := state.changed || replaced }
      (onwards, if shown && replaced then state.printSpace else state)
  | true, .translate before after =>
      let image (character : Char) : Char :=
        match before.idxOf? character with
        | some place => after.getD place character
        | none => character
      (onwards, { state with space := state.space.map image })
  | true, .print false => (onwards, state.printSpace)
  | true, .print true => (onwards, state.print (firstLine state.space).1)
  | true, .delete onlyFirst =>
      match onlyFirst, (firstLine state.space).2 with
      | true, some rest => (.again, { state with space := rest })
      | _, _ => (.nextLine, state.finish true)
  | true, .number => (onwards, state.print (numeral state.line))
  | true, .quit silently status => (.stop status, if silently then state else state.finish quiet)
  | true, .insert text => (onwards, state.print text)
  | true, .append text => (onwards, { state with queued := state.queued ++ [text] })
  | true, .change text =>
      let goesOn := state.ranges.contains place
      (.nextLine, (if goesOn then state else state.print text).finish true)
  | true, .next joined =>
      let finished := if joined then state else state.finish quiet
      match advance finished joined with
      | some state => (onwards, state)
      | none => (.stop 0, if joined then state.finish quiet else finished)
  | true, .hold added =>
      (onwards, { state with
        kept := if added then state.kept ++ '\n' :: state.space else state.space })
  | true, .recall added =>
      (onwards, { state with
        space := if added then state.space ++ '\n' :: state.kept else state.kept })
  | true, .exchange => (onwards, { state with space := state.kept, kept := state.space })
  | true, .jump name whenChanged =>
      if whenChanged && !state.changed then (onwards, state)
      else (.goOn (placeOf commands name),
        if whenChanged then { state with changed := false } else state)
  | true, .label _ | true, .opening | true, .closing => (onwards, state)

/-- Run the commands from a place on. -/
def run (quiet : Bool) (commands : List Command) : (fuel : Nat) → (place : Nat) → State →
    Nat × State
  | 0, _, state => (1, state)
  | fuel + 1, place, state =>
      let nextLine := fun (state : State) =>
        match advance state false with
        | some state => run quiet commands fuel 0 { state with changed := false }
        | none => (0, state)
      match commands[place]? with
      | none => nextLine (state.finish quiet)
      | some command =>
          match perform quiet commands place command state with
          | (.goOn place, state) => run quiet commands fuel place state
          | (.nextLine, state) => nextLine state
          | (.again, state) => run quiet commands fuel 0 state
          | (.stop status, state) => (status, state)

/-- The text of printed lines, the last one first: a line without an end gets one if another line
follows. -/
def assemble (printed : List (Data × Bool)) : Data :=
  match printed with
  | [] => []
  | (last, ended) :: earlier =>
      unlines (earlier.reverse.map Prod.fst) ++ last ++ (if ended then ['\n'] else [])

/-- The steps that the editor may take. -/
def plenty (commands : List Command) (lines : List Data) : Nat :=
  100000 + (commands.length + 2) * (lines.length + 2)

/-- Edit a text, with the status at the end. -/
def editText (quiet : Bool) (commands : List Command) (text : Data) : Nat × Data :=
  match lines text with
  | [] => (0, [])
  | first :: rest =>
      let start : State :=
        { space := first, rest, endsLine := text.getLast? == some '\n' }
      let (status, state) := run quiet commands (plenty commands (first :: rest)) 0 start
      (status, assemble state.printed)

end Editor

/-- Edit the input or files. -/
def edit (files : FileTree) (arguments : List Data) (input : Data) : Effect :=
  let (options, operands) := options ['e'] arguments
  let extended := given options 'E' || given options 'r'
  let scripts := (options.filter (·.1 == 'e')).map Prod.snd
  let (scripts, operands) := if scripts.isEmpty then (operands.take 1, operands.drop 1)
    else (scripts, operands)
  let script := joinWith ['\n'] scripts
  match Editor.commands? extended (script.length + 1) script with
  | none =>
      { status := 1, rest := input
        errors := complain "sed" "-e expression #1, char 0: unknown command" }
  | some commands =>
      let (texts, effect) := sources "sed" files operands input
      let (status, output) := Editor.editText (given options 'n') commands (texts.flatMap Prod.snd)
      { effect with output, status := if status = 0 && effect.status != 0 then 2 else status }

end MarkupLint.Shell.Utility

import MarkupLint.Shell.Utility.Printing
/-!
# Filters

The utilities that turn what they read into something else, character by character or line by line.
-/

namespace MarkupLint.Shell.Utility

/-! ### Characters -/

/-- The characters of a set as it is spelled for translation. -/
def characterSet : (fuel : Nat) → Data → List Char
  | 0, _ | _, [] => []
  | fuel + 1, text =>
      let (first, rest) : Char × Data := match text with
        | '\\' :: character :: rest =>
            if '0' ≤ character && character ≤ '7' then
              let (value, rest) := octal 3 0 (character :: rest)
              (octetCharacter value, rest)
            else ((letterEscape? character).getD character, rest)
        | character :: rest => (character, rest)
        | [] => (' ', [])
      match rest with
      | '-' :: last :: rest =>
          (List.range (last.toNat + 1 - first.toNat)).map (fun step =>
            Char.ofNat (first.toNat + step)) ++ characterSet fuel rest
      | rest => first :: characterSet fuel rest

/-- A set with its named classes written out. -/
def expandClasses (text : Data) : Data :=
  let classes := [("[:upper:]", "A-Z"), ("[:lower:]", "a-z"), ("[:digit:]", "0-9"),
    ("[:alpha:]", "A-Za-z"), ("[:alnum:]", "A-Za-z0-9"), ("[:space:]", " \\t\\n\\r\\v\\f"),
    ("[:blank:]", " \\t"), ("[:punct:]", "!-/:-@[-\x60\x7b-~"), ("[:cntrl:]", "\\0-\\37\\177")]
  (classes.foldl (fun (text : String) (name, members) =>
    String.intercalate members (text.splitOn name)) (String.ofList text)).toList

/-- Drop repetitions of characters that are chosen. -/
def squeeze (chosen : Char → Bool) : Data → Data
  | first :: second :: rest =>
      if first = second && chosen first then squeeze chosen (second :: rest)
      else first :: squeeze chosen (second :: rest)
  | text => text

/-- Translate, delete or squeeze characters. -/
def translate (arguments : List Data) (input : Data) : Effect :=
  let (options, operands) := options [] arguments
  let complemented := given options 'c' || given options 'C'
  let sets := operands.map fun set =>
    let set := expandClasses set
    characterSet (set.length + 1) set
  match sets with
  | [] => { status := 1, errors := complain "tr" "missing operand", rest := input }
  | first :: others =>
      let chosen := fun (character : Char) => first.contains character != complemented
      let second := others.headD []
      let squeezed := fun (chosen : Char → Bool) (text : Data) =>
        if given options 's' then squeeze chosen text else text
      if given options 'd' then { output := squeezed second.contains (input.filter (!chosen ·)) }
      else if second.isEmpty then { output := squeezed chosen input }
      else
        let last := second.getLast?.getD ' '
        let image := fun character =>
          if !chosen character then character
          else if complemented then last
          else second.getD (first.idxOf character) last
        { output := squeezed second.contains (input.map image) }

/-- The numbers of lines, words, characters and octets of a text that are asked for. -/
def countsOf (options : List (Char × Data)) (text : Data) : List Nat :=
  let words := (text.foldl (fun (count, inside) character =>
    if isSpace character then (count, false)
    else (if inside then count else count + 1, true)) (0, false)).1
  let characters := text.countP fun character => !(0x80 ≤ character.toNat && character.toNat < 0xC0)
  let wanted := fun (option : Char) => options.isEmpty || given options option
  (if wanted 'l' then [text.countP (· == '\n')] else []) ++
    (if wanted 'w' then [words] else []) ++
    (if given options 'm' then [characters] else []) ++
    (if wanted 'c' then [text.length] else [])

/-- Count lines, words and octets. -/
def count (files : FileTree) (arguments : List Data) (input : Data) : Effect :=
  let (options, operands) := options [] arguments
  let (texts, effect) := sources "wc" files operands input
  let counted := texts.map fun (name, text) => (name, countsOf options text)
  let totals := (counted.map Prod.snd).foldl (fun totals counts =>
    if totals.isEmpty then counts else List.zipWith (· + ·) totals counts) []
  let counted := if texts.length ≤ 1 then counted else counted ++ [("total".toList, totals)]
  let size := texts.foldl (fun size (_, text) => size + text.length) 0
  let width :=
    if totals.length = 1 && texts.length ≤ 1 then 1
    else if operands.isEmpty || operands.contains ['-'] then 7
    else (numeral size).length
  let shown := counted.map fun (name, counts) =>
    let numbers := counts.map fun (value : Nat) => pad [] width (numeral value)
    joinWith [' '] numbers ++ (if name.isEmpty then [] else ' ' :: name)
  { effect with output := unlines shown }

/-- The octets of the input in hexadecimal, sixteen to a line. -/
def hexDump : (fuel : Nat) → (addresses : Bool) → (offset : Nat) → Data → Data
  | 0, _, _, _ => []
  | fuel + 1, addresses, offset, text =>
      let address := if addresses then pad ['0'] 7 (Nat.toDigits 8 offset) else []
      if text.isEmpty then if addresses then address ++ ['\n'] else []
      else
        let row := text.take 16
        let shown := row.flatMap fun character =>
          ' ' :: pad ['0'] 2 (Nat.toDigits 16 character.toNat)
        address ++ shown ++
          '\n' :: hexDump fuel addresses (offset + row.length) (text.drop 16)

/-- Show the octets of the input. -/
def dump (files : FileTree) (arguments : List Data) (input : Data) : Effect :=
  let (options, operands) := options ['A', 't', 'N', 'j', 'w'] arguments
  let addresses := valueOf options 'A' != some ['n']
  filter "od" files operands input fun text =>
    let text := text.drop (number ((valueOf options 'j').getD [])).toNat
    let text := match valueOf options 'N' with
      | some size => text.take (number size).toNat
      | none => text
    hexDump (text.length + 1) addresses 0 text

/-! ### Lines -/

/-- Arguments in which a lone number after a hyphen is the number of lines. -/
def withLineCounts (arguments : List Data) : List Data :=
  arguments.map fun
    | '-' :: digit :: digits => if digit.isDigit then '-' :: 'n' :: digit :: digits
        else '-' :: digit :: digits
    | argument => argument

/-- The lines of a text with their ends. -/
def wholeLines (text : Data) : List Data :=
  let ended := (lines text).map (· ++ ['\n'])
  if text.getLast? = some '\n' then ended
  else match ended.getLast? with
    | some last => ended.dropLast ++ [last.dropLast]
    | none => []

/-- The first items; of a negative number, all but the last ones. -/
def firstOf {α : Type} (amount : Int) (items : List α) : List α :=
  if amount < 0 then items.take (items.length - amount.natAbs) else items.take amount.toNat

/-- The last items; with a plus sign, the items from a number on. -/
def lastOf {α : Type} (amount : Data) (items : List α) : List α :=
  if amount.head? = some '+' then items.drop ((number amount).toNat - 1)
  else items.drop (items.length - (number amount).natAbs)

/-- The first lines or octets. -/
def head (files : FileTree) (arguments : List Data) (input : Data) : Effect :=
  let (options, operands) := options ['n', 'c'] (withLineCounts arguments)
  match valueOf options 'c' with
  | some amount =>
      if operands = ["/dev/zero".toList] then
        { output := List.replicate (number amount).toNat (Char.ofNat 0), rest := input }
      else filter "head" files operands input (firstOf (number amount))
  | none =>
      let amount := ((valueOf options 'n').map number).getD 10
      filter "head" files operands input fun text => (firstOf amount (wholeLines text)).flatten

/-- The last lines or octets. -/
def tail (files : FileTree) (arguments : List Data) (input : Data) : Effect :=
  let (options, operands) := options ['n', 'c'] (withLineCounts arguments)
  match valueOf options 'c' with
  | some amount => filter "tail" files operands input (lastOf amount)
  | none =>
      let amount := (valueOf options 'n').getD ['1', '0']
      filter "tail" files operands input fun text => (lastOf amount (wholeLines text)).flatten

/-- Put lines in the order of their octets or of the numbers that they start with. -/
def sort (files : FileTree) (arguments : List Data) (input : Data) : Effect :=
  let (options, operands) := options ['k', 't'] arguments
  filter "sort" files operands input fun text =>
    let atMost := fun (first second : Data) =>
      let before := (integer first).1
      let after := (integer second).1
      if given options 'n' && before != after then decide (before < after)
      else Data.atMost first second
    let sorted := (lines text).mergeSort atMost
    let sorted := if given options 'r' then sorted.reverse else sorted
    unlines (if given options 'u' then sorted.eraseReps else sorted)

/-- Runs of equal lines with their lengths. -/
def lineRuns (lines : List Data) : List (Nat × Data) :=
  lines.foldr (fun line runs =>
    match runs with
    | (count, other) :: rest =>
        if line = other then (count + 1, other) :: rest else (1, line) :: runs
    | [] => [(1, line)]) []

/-- Keep one of several equal lines. -/
def unique (files : FileTree) (arguments : List Data) (input : Data) : Effect :=
  let (options, operands) := options [] arguments
  filter "uniq" files operands input fun text =>
    let kept := (lineRuns (lines text)).filter fun (count, _) =>
      (!given options 'd' || 1 < count) && (!given options 'u' || count = 1)
    unlines (kept.map fun (count, line) =>
      if given options 'c' then pad [] 7 (numeral count) ++ ' ' :: line else line)

/-- Split a text at a separator. -/
def splitAt (separator : Char) (text : Data) : List Data :=
  text.foldr (fun character parts =>
    if character = separator then [] :: parts
    else match parts with
      | [] => [[character]]
      | part :: rest => (character :: part) :: rest) [[]]

/-- Whether a list of numbers and ranges names a number. -/
def listed (list : Data) (position : Nat) : Bool :=
  (splitAt ',' list).any fun range =>
    match splitAt '-' range with
    | [single] => (number single).toNat = position
    | [low, high] =>
        (number low).toNat ≤ position && (high.isEmpty || position ≤ (number high).toNat)
    | _ => false

/-- The listed ones of some items, which are numbered from one on. -/
def chosen {α : Type} (list : Data) (items : List α) : List α :=
  items.zipIdx.filterMap fun (item, index) => if listed list (index + 1) then some item else none

/-- Cut parts out of lines. -/
def cut (files : FileTree) (arguments : List Data) (input : Data) : Effect :=
  let (options, operands) := options ['b', 'c', 'd', 'f'] arguments
  filter "cut" files operands input fun text =>
    unlines ((lines text).map fun line =>
      match valueOf options 'f', (valueOf options 'c').or (valueOf options 'b') with
      | some list, _ =>
          let separator := ((valueOf options 'd').getD ['\t']).headD '\t'
          if line.contains separator then
            joinWith [separator] (chosen list (splitAt separator line))
          else line
      | none, some list => chosen list line
      | none, none => line)

/-- The numbers from one bound to another. -/
def sequenceOf (first step last : Int) : List Int :=
  if step = 0 then []
  else
    let amount := ((last - first) / step + 1).toNat
    (List.range amount).map fun (index : Nat) => first + step * index

/-- Print the numbers of a sequence. -/
def sequence (arguments : List Data) : Data :=
  let (separator, arguments) := match arguments with
    | ['-', 's'] :: separator :: rest => (separator, rest)
    | ('-' :: 's' :: separator) :: rest => (separator, rest)
    | rest => (['\n'], rest)
  let numbers := match arguments.map number with
    | [last] => sequenceOf 1 1 last
    | [first, last] => sequenceOf first 1 last
    | [first, step, last] => sequenceOf first step last
    | _ => []
  if numbers.isEmpty then [] else joinWith separator (numbers.map numeral) ++ ['\n']

end MarkupLint.Shell.Utility

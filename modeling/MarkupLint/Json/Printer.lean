import MarkupLint.Json.Basic
/-!
# Writing values

Two forms are written: one without any blanks, and one with a line for each item and member,
indented by two blanks for each level.
-/

namespace MarkupLint.Json

/-- A hexadecimal digit. -/
def hexDigit (value : Nat) : Char :=
  if value < 10 then Char.ofNat ('0'.toNat + value) else Char.ofNat ('a'.toNat + (value - 10))

/-- The written form of a character inside a string: quotes, backslashes and control characters
are escaped, with a short escape where there is one. -/
def escape (character : Char) : List Char :=
  match character with
  | '"' => ['\\', '"']
  | '\\' => ['\\', '\\']
  | '\n' => ['\\', 'n']
  | '\r' => ['\\', 'r']
  | '\t' => ['\\', 't']
  | character =>
      let code := character.toNat
      if code = 0x08 then ['\\', 'b']
      else if code = 0x0C then ['\\', 'f']
      else if code < 0x20 then ['\\', 'u', '0', '0', hexDigit (code / 16), hexDigit (code % 16)]
      else [character]

/-- The written form of a string. -/
def quote (text : String) : List Char := '"' :: (text.toList.flatMap escape ++ ['"'])

mutual

/-- The value without blanks. -/
def print : Json → List Char
  | .null => "null".toList
  | .bool true => "true".toList
  | .bool false => "false".toList
  | .number value => value.text.toList
  | .string value => quote value
  | .array items => '[' :: (printItems items ++ [']'])
  | .object members => '{' :: (printMembers members ++ ['}'])

/-- The items of an array, separated by commas. -/
def printItems : List Json → List Char
  | [] => []
  | [item] => print item
  | item :: next :: rest => print item ++ ',' :: printItems (next :: rest)

/-- The members of an object, separated by commas. -/
def printMembers : Members → List Char
  | [] => []
  | [(key, value)] => quote key ++ ':' :: print value
  | (key, value) :: next :: rest =>
      quote key ++ ':' :: (print value ++ ',' :: printMembers (next :: rest))

end

/-- A new line at a level of indentation. -/
def lineBreak (level : Nat) : List Char := '\n' :: List.replicate (2 * level) ' '

mutual

/-- The value with a line for each item and member; an empty array or object stays on its line. -/
def printIndented (level : Nat) : Json → List Char
  | .array [] => ['[', ']']
  | .array (item :: rest) =>
      '[' :: (lineBreak (level + 1) ++ printIndentedItems (level + 1) (item :: rest) ++
        lineBreak level ++ [']'])
  | .object [] => ['{', '}']
  | .object (member :: rest) =>
      '{' :: (lineBreak (level + 1) ++ printIndentedMembers (level + 1) (member :: rest) ++
        lineBreak level ++ ['}'])
  | .null => print .null
  | .bool value => print (.bool value)
  | .number value => print (.number value)
  | .string value => print (.string value)

/-- The items of an array, each on a line of its own. -/
def printIndentedItems (level : Nat) : List Json → List Char
  | [] => []
  | [item] => printIndented level item
  | item :: next :: rest =>
      printIndented level item ++ ',' :: (lineBreak level ++
        printIndentedItems level (next :: rest))

/-- The members of an object, each on a line of its own. -/
def printIndentedMembers (level : Nat) : Members → List Char
  | [] => []
  | [(key, value)] => quote key ++ ':' :: ' ' :: printIndented level value
  | (key, value) :: next :: rest =>
      quote key ++ ':' :: ' ' :: (printIndented level value ++ ',' :: (lineBreak level ++
        printIndentedMembers level (next :: rest)))

end

/-- The text of a value without blanks. -/
def compact (value : Json) : String := String.ofList (print value)

/-- The text of a value with a line for each item and member. -/
def pretty (value : Json) : String := String.ofList (printIndented 0 value)

end MarkupLint.Json

import MarkupLint.Json.Basic
import MarkupLint.Json.Fault
/-!
# Reading values

A reader takes the characters that are left and returns a value with the characters after it, or
stops at a fault. How closely a part of the text is looked at depends on what is demanded of it: a
part that is skipped is only checked for its form, so neither its nesting nor the size of its
numbers nor unpaired surrogates matter there.

Members come out in the order of the text, repetitions included. Every call is made with less fuel
than the one before, and of two calls in a row at least one takes a character, so twice the number
of characters is fuel enough.
-/

namespace MarkupLint.Json

/-- What is demanded of a value: all of it, nothing but its form, certain members of an object or
items of an array, or something of each item of an array. -/
inductive Demand where
  | whole
  | skipped
  | record (fields : List (String × Demand))
  | each (item : Demand)

namespace Demand

/-- What is demanded of the member with a key. -/
def member (key : String) : Demand → Demand
  | .skipped => .skipped
  | .record fields => (fields.lookup key).getD .skipped
  | _ => .whole

/-- What is demanded of the item at an index. -/
def item (index : Nat) : Demand → Demand
  | .skipped => .skipped
  | .record fields => (fields[index]?.map Prod.snd).getD .whole
  | .each demand => demand
  | .whole => .whole

/-- Whether only the form matters. -/
def isSkipped : Demand → Bool
  | .skipped => true
  | _ => false

end Demand

namespace Reader

/-- A stop at a fault: the characters left, and how many octets of them belong to the fault. -/
structure Stop where
  fault : SyntaxFault
  rest : List Char
  octets : Nat

/-- The outcome of a reader: a result with the characters after it, or a stop. -/
abbrev Outcome (α : Type) := Except Stop (α × List Char)

/-- Stop at the next octet, or at the end of the text. -/
def stop (fault : SyntaxFault) (rest : List Char) (octets : Nat := 1) : Outcome α :=
  .error ⟨fault, rest, octets⟩

/-- The characters that may stand between the parts of a document. -/
def isSpace (character : Char) : Bool :=
  character == ' ' || character == '\n' || character == '\t' || character == '\r'

/-- Drop the blanks in front. -/
def skipSpace (text : List Char) : List Char := text.dropWhile isSpace

/-- Read the rest of a word such as `true`. -/
def word (value : Json) : (expected text : List Char) → Outcome Json
  | [], rest => .ok (value, rest)
  | _ :: _, [] => stop .endInValue []
  | letter :: letters, character :: rest =>
      if character = letter then word value letters rest
      else stop .expectedWord (character :: rest)

/-- The value of a decimal digit. -/
def digitValue (character : Char) : Nat := character.toNat - '0'.toNat

/-- Whether a character is a decimal digit. -/
def isDigit (character : Char) : Bool := '0' ≤ character && character ≤ '9'

/-- Take digits into a significand for as long as it stays an unsigned integer of 64 bits; the
result also counts the digits taken. -/
def takeDigits (significand count : Nat) : List Char → Nat × Nat × List Char
  | [] => (significand, count, [])
  | character :: rest =>
      let extended := significand * 10 + digitValue character
      if isDigit character && extended ≤ Number.greatestWord then
        takeDigits extended (count + 1) rest
      else (significand, count, character :: rest)

/-- Drop digits and count them. -/
def dropDigits (text : List Char) : Nat × List Char :=
  ((text.takeWhile isDigit).length, text.dropWhile isDigit)

/-- The number `± significand * 10 ^ exponent` that ends where the rest begins. -/
def finishReal (negative : Bool) (significand : Nat) (exponent : Int) (rest : List Char) :
    Outcome Json :=
  match Number.ofScientific negative significand exponent with
  | some value => .ok (.number (.real value), rest)
  | none => stop .numberOutOfRange rest 0

/-- The greatest exponent that can be written. -/
def greatestExponent : Nat := 2147483647

/-- Take the digits of an exponent for as long as it stays a signed integer of 32 bits. -/
def takeExponent (value : Nat) : List Char → Nat × List Char
  | [] => (value, [])
  | character :: rest =>
      let extended := value * 10 + digitValue character
      if isDigit character && extended ≤ greatestExponent then takeExponent extended rest
      else (value, character :: rest)

/-- Read what follows the mark of an exponent. An exponent too large to be written makes the
number zero, or puts it out of range if it was going to grow. -/
def exponentPart (negative : Bool) (significand : Nat) (scale : Int) (text : List Char) :
    Outcome Json :=
  let (shrinks, digits) := match text with
    | '+' :: rest => (false, rest)
    | '-' :: rest => (true, rest)
    | rest => (false, rest)
  match digits with
  | [] => stop .endInValue []
  | character :: _ =>
      if !isDigit character then stop .invalidNumber digits
      else
        let (value, rest) := takeExponent 0 digits
        match rest with
        | next :: more =>
            if isDigit next then
              if significand != 0 && !shrinks then stop .numberOutOfRange (next :: more)
              else .ok (.number (.real (Binary64.zero negative)), more.dropWhile isDigit)
            else finishReal negative significand (if shrinks then scale - value else scale + value)
              rest
        | [] => finishReal negative significand (if shrinks then scale - value else scale + value)
            rest

/-- Read an exponent if one follows. -/
def optionalExponent (negative : Bool) (significand : Nat) (scale : Int) (text : List Char) :
    Outcome Json :=
  match text with
  | 'e' :: rest | 'E' :: rest => exponentPart negative significand scale rest
  | rest => finishReal negative significand scale rest

/-- Read what follows a decimal point. Digits that the significand cannot hold are dropped. -/
def fractionPart (negative : Bool) (significand : Nat) (scale : Int) (text : List Char) :
    Outcome Json :=
  match text with
  | [] => stop .endInValue []
  | character :: _ =>
      if !isDigit character then stop .invalidNumber text
      else
        let (extended, count, rest) := takeDigits significand 0 text
        optionalExponent negative extended (scale - count) (dropDigits rest).2

/-- An integer that ends where the rest begins: one that fits 64 bits stays an integer, except for
a negative zero. -/
def finishInteger (negative : Bool) (significand : Nat) (rest : List Char) : Outcome Json :=
  if !negative then .ok (.number (.integer significand), rest)
  else if significand != 0 && significand ≤ 9223372036854775808 then
    .ok (.number (.integer (-significand)), rest)
  else finishReal true significand 0 rest

/-- Read what follows the digits of the integer part. -/
def afterInteger (negative : Bool) (significand scale : Nat) (text : List Char) : Outcome Json :=
  match text with
  | '.' :: rest => fractionPart negative significand scale rest
  | 'e' :: rest | 'E' :: rest => exponentPart negative significand scale rest
  | rest =>
      if scale = 0 then finishInteger negative significand rest
      else finishReal negative significand scale rest

/-- Read a number whose sign has been read. Digits of the integer part that the significand cannot
hold count as factors of ten. -/
def number (negative : Bool) (text : List Char) : Outcome Json :=
  match text with
  | [] => stop .endInValue []
  | '0' :: next :: rest =>
      if isDigit next then stop .invalidNumber (next :: rest)
      else afterInteger negative 0 0 (next :: rest)
  | ['0'] => afterInteger negative 0 0 []
  | character :: rest =>
      if isDigit character then
        let (significand, _, more) := takeDigits 0 0 (character :: rest)
        let (scale, more) := dropDigits more
        afterInteger negative significand scale more
      else stop .invalidNumber (character :: rest)

/-- The value of a hexadecimal digit. -/
def hexValue? (character : Char) : Option Nat :=
  if isDigit character then some (digitValue character)
  else if 'a' ≤ character && character ≤ 'f' then some (character.toNat - 'a'.toNat + 10)
  else if 'A' ≤ character && character ≤ 'F' then some (character.toNat - 'A'.toNat + 10)
  else none

/-- The number of octets of a text. -/
def octetCount : List Char → Nat
  | [] => 0
  | character :: rest => character.utf8Size + octetCount rest

/-- Read four hexadecimal digits. Fewer than four octets left are the end of the text; otherwise
the four octets are at fault together. -/
def hexQuad (text : List Char) : Outcome Nat :=
  let values := (text.take 4).map hexValue?
  match values with
  | [some first, some second, some third, some fourth] =>
      .ok (((first * 16 + second) * 16 + third) * 16 + fourth, text.drop 4)
  | _ =>
      if octetCount (text.take 4) < 4 then stop .endInString []
      else stop .invalidEscape text 4

/-- Read the second half of a surrogate pair after its first half. -/
def surrogatePair (lead : Nat) (text : List Char) : Outcome Char :=
  match text with
  | [] => stop .endInString []
  | '\\' :: [] => stop .endInString []
  | '\\' :: 'u' :: rest =>
      match hexQuad rest with
      | .error fault => .error fault
      | .ok (trail, rest) =>
          if 0xDC00 ≤ trail && trail ≤ 0xDFFF then
            .ok (Char.ofNat (0x10000 + (lead - 0xD800) * 0x400 + (trail - 0xDC00)), rest)
          else stop .loneSurrogate rest 0
  | '\\' :: rest => stop .unfinishedSurrogatePair rest
  | rest => stop .unfinishedSurrogatePair rest

/-- Read the four digits of a character's code, and those of its second half if it has one. In a
skipped string any four digits will do. -/
def codeEscape (skipped : Bool) (text : List Char) : Outcome Char :=
  match hexQuad text with
  | .error fault => .error fault
  | .ok (code, rest) =>
      if skipped then .ok ('\uFFFD', rest)
      else if 0xDC00 ≤ code && code ≤ 0xDFFF then stop .loneSurrogate rest 0
      else if 0xD800 ≤ code && code ≤ 0xDBFF then surrogatePair code rest
      else .ok (Char.ofNat code, rest)

/-- Read what follows a backslash. -/
def escapeSequence (skipped : Bool) (text : List Char) : Outcome Char :=
  match text with
  | [] => stop .endInString []
  | '"' :: rest => .ok ('"', rest)
  | '\\' :: rest => .ok ('\\', rest)
  | '/' :: rest => .ok ('/', rest)
  | 'b' :: rest => .ok ('\x08', rest)
  | 'f' :: rest => .ok ('\x0c', rest)
  | 'n' :: rest => .ok ('\n', rest)
  | 'r' :: rest => .ok ('\r', rest)
  | 't' :: rest => .ok ('\t', rest)
  | 'u' :: rest => codeEscape skipped rest
  | other => stop .invalidEscape other

/-- Read a string after its opening quote; the characters read so far come last one first. -/
def stringBody (skipped : Bool) : (fuel : Nat) → (read : List Char) → List Char → Outcome String
  | 0, _, rest => stop .endInString rest 0
  | _ + 1, _, [] => stop .endInString []
  | _ + 1, read, '"' :: rest => .ok (String.ofList read.reverse, rest)
  | fuel + 1, read, '\\' :: rest =>
      match escapeSequence skipped rest with
      | .error fault => .error fault
      | .ok (character, rest) => stringBody skipped fuel (character :: read) rest
  | fuel + 1, read, character :: rest =>
      if character.toNat < 0x20 then stop .controlCharacter (character :: rest)
      else stringBody skipped fuel (character :: read) rest

/-- The levels of nesting left inside an array or object, if it may be opened. Skipped values are
not limited. -/
def deeper (demand : Demand) (depth : Nat) : Option Nat :=
  if demand.isSkipped then some depth
  else match depth with
    | 0 => none
    | depth + 1 => some depth

/-- A number in a skipped value may be of any size. -/
def numberOf (demand : Demand) (negative : Bool) (text : List Char) : Outcome Json :=
  match number negative text with
  | .error ⟨.numberOutOfRange, rest, octets⟩ =>
      if demand.isSkipped then .ok (.null, rest.dropWhile isDigit)
      else .error ⟨.numberOutOfRange, rest, octets⟩
  | outcome => outcome

mutual

/-- Read a value. -/
def value : (fuel : Nat) → Demand → (depth : Nat) → List Char → Outcome Json
  | 0, _, _, rest => stop .endInValue rest
  | fuel + 1, demand, depth, text =>
      match skipSpace text with
      | [] => stop .endInValue []
      | 'n' :: rest => word .null ['u', 'l', 'l'] rest
      | 't' :: rest => word (.bool true) ['r', 'u', 'e'] rest
      | 'f' :: rest => word (.bool false) ['a', 'l', 's', 'e'] rest
      | '-' :: rest => numberOf demand true rest
      | '"' :: rest => (stringBody demand.isSkipped fuel [] rest).map fun (text, rest) =>
          (.string text, rest)
      | '[' :: rest =>
          match deeper demand depth with
          | none => stop .nestedTooDeep ('[' :: rest)
          | some depth => items fuel demand depth [] rest
      | '\x7b' :: rest =>
          match deeper demand depth with
          | none => stop .nestedTooDeep ('\x7b' :: rest)
          | some depth => members fuel demand depth [] rest
      | character :: rest =>
          if isDigit character then numberOf demand false (character :: rest)
          else stop .expectedValue (character :: rest)

/-- Read the items of an array from its start or from the end of an item; the items read so far
come last one first. -/
def items : (fuel : Nat) → Demand → (depth : Nat) → (read : List Json) → List Char → Outcome Json
  | 0, _, _, _, rest => stop .endInArray rest
  | fuel + 1, demand, depth, read, text =>
      let next (text : List Char) : Outcome Json :=
        match value fuel (demand.item read.length) depth text with
        | .error fault => .error fault
        | .ok (item, rest) => items fuel demand depth (item :: read) rest
      match read, skipSpace text with
      | _, [] => stop .endInArray []
      | _, ']' :: rest => .ok (.array read.reverse, rest)
      | [], rest => next rest
      | _ :: _, ',' :: rest =>
          match skipSpace rest with
          | [] => stop .endInValue []
          | ']' :: rest => stop .trailingComma (']' :: rest)
          | rest => next rest
      | _ :: _, rest => stop .expectedArrayEnd rest

/-- Read the members of an object from its start or from the end of a member; the members read so
far come last one first. -/
def members : (fuel : Nat) → Demand → (depth : Nat) → (read : Members) → List Char → Outcome Json
  | 0, _, _, _, rest => stop .endInObject rest
  | fuel + 1, demand, depth, read, text =>
      let next (text : List Char) : Outcome Json :=
        match stringBody demand.isSkipped fuel [] text with
        | .error fault => .error fault
        | .ok (key, rest) =>
            match skipSpace rest with
            | [] => stop .endInObject []
            | ':' :: rest =>
                match value fuel (demand.member key) depth rest with
                | .error fault => .error fault
                | .ok (value, rest) => members fuel demand depth ((key, value) :: read) rest
            | rest => stop .expectedColon rest
      match read, skipSpace text with
      | _, [] => stop .endInObject []
      | _, '\x7d' :: rest => .ok (.object read.reverse, rest)
      | [], '"' :: rest => next rest
      | [], rest => stop .keyNotString rest
      | _ :: _, ',' :: rest =>
          match skipSpace rest with
          | [] => stop .endInValue []
          | '"' :: rest => next rest
          | '\x7d' :: rest => stop .trailingComma ('\x7d' :: rest)
          | rest => stop .keyNotString rest
      | _ :: _, rest => stop .expectedObjectEnd rest

end

/-- Take the characters that begin within the first octets of a text, with the octets left over
for the one they end in. -/
def takeOctets (octets : Nat) : List Char → List Char × Nat
  | [] => ([], 0)
  | character :: rest =>
      if octets < character.utf8Size then ([], octets)
      else
        let (taken, left) := takeOctets (octets - character.utf8Size) rest
        (character :: taken, left)

/-- The place of a stop in the whole text. -/
def Stop.locate (stop : Stop) (text : List Char) : ReadError :=
  let before := text.take (text.length - stop.rest.length)
  let (taken, left) := takeOctets stop.octets stop.rest
  let seen := before ++ taken
  let lines := seen.filter (· == '\n')
  let line := (seen.reverse.takeWhile (· != '\n'))
  ⟨stop.fault, lines.length + 1, octetCount line + left⟩

/-- The levels of nesting that a document may have. -/
def deepest : Nat := 127

end Reader

/-- Read the value at the start of a text, and return what follows it. -/
def readFirst (demand : Demand) (text : List Char) : Except ReadError (Json × List Char) :=
  match Reader.value (2 * text.length + 2) demand Reader.deepest text with
  | .error stop => .error (stop.locate text)
  | .ok outcome => .ok outcome

/-- What follows the value of a text must be blank. -/
def checkEnd (text rest : List Char) : Except ReadError Unit :=
  match Reader.skipSpace rest with
  | [] => .ok ()
  | rest => .error ((Reader.Stop.mk .trailingCharacters rest 1).locate text)

/-- Read a text that holds a single value, members in the order of the text. -/
def readRaw (demand : Demand) (text : List Char) : Except ReadError Json := do
  let (value, rest) ← readFirst demand text
  checkEnd text rest
  return value

/-- Read a text that holds a single value. -/
def read (text : List Char) : Except ReadError Json := (readRaw .whole text).map canonical

/-- Read a string that holds a single value. -/
def parse (text : String) : Except ReadError Json := read text.toList

end MarkupLint.Json

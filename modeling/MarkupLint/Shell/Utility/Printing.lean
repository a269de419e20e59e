import MarkupLint.Shell.Utility.Basic
/-!
# Printing

The utilities that print their arguments: one that puts them on a line, and one that fills them
into a format.
-/

namespace MarkupLint.Shell.Utility

/-- The value of up to the given number of octal digits at the start of a text. -/
def octal : (digits : Nat) → (value : Nat) → Data → Nat × Data
  | 0, value, text => (value, text)
  | _, value, [] => (value, [])
  | digits + 1, value, character :: rest =>
      if '0' ≤ character && character ≤ '7' then
        octal digits (value * 8 + (character.toNat - 48)) rest
      else (value, character :: rest)

/-- The character with a number of one octet. -/
def octetCharacter (value : Nat) : Char := Char.ofNat (value % 256)

/-- The character of an escape that is a letter. -/
def letterEscape? : Char → Option Char
  | 'a' => some '\x07'
  | 'b' => some '\x08'
  | 'e' => some '\x1b'
  | 'f' => some '\x0c'
  | 'n' => some '\n'
  | 'r' => some '\r'
  | 't' => some '\t'
  | 'v' => some '\x0b'
  | '\\' => some '\\'
  | _ => none

/-- Replace the escapes of a text, in which a zero may come before the digits of a number; `\c`
ends the text, as the second result tells. -/
def unescape : (fuel : Nat) → Data → Data × Bool
  | 0, text => (text, false)
  | _, [] => ([], false)
  | fuel + 1, '\\' :: character :: rest =>
      let proceed (written : Data) (rest : Data) : Data × Bool :=
        let (text, ended) := unescape fuel rest
        (written ++ text, ended)
      if character = 'c' then ([], true)
      else if '0' ≤ character && character ≤ '7' then
        let (value, rest) := octal 3 0 (if character = '0' then rest else character :: rest)
        proceed [octetCharacter value] rest
      else match letterEscape? character with
        | some escaped => proceed [escaped] rest
        | none => proceed ['\\', character] rest
  | fuel + 1, character :: rest =>
      let (text, ended) := unescape fuel rest
      (character :: text, ended)

/-- The arguments separated by blanks, with their escapes replaced. -/
def echo (arguments : List Data) : Data :=
  let (newline, arguments) := match arguments with
    | ['-', 'n'] :: rest => (false, rest)
    | rest => (true, rest)
  let text := joinWith [' '] arguments
  let (text, ended) := unescape (text.length + 1) text
  if newline && !ended then text ++ ['\n'] else text

/-- Fill a text up to a width, on the left unless told otherwise. -/
def pad (flags : Data) (width : Nat) (text : Data) : Data :=
  let missing := width - text.length
  if flags.contains '-' then text ++ List.replicate missing ' '
  else if flags.contains '0' then
    match text with
    | '-' :: digits => '-' :: (List.replicate missing '0' ++ digits)
    | digits => List.replicate missing '0' ++ digits
  else List.replicate missing ' ' ++ text

/-- The value of a numeral in hexadecimal, octal or decimal digits, and what follows its digits. -/
def integer (text : Data) : Int × Data :=
  let text := text.dropWhile isSpace
  let (negative, text) := match text with
    | '-' :: rest => (true, rest)
    | '+' :: rest => (false, rest)
    | rest => (false, rest)
  let read (base : Nat) (text : Data) : Int × Data :=
    let digitValue := fun (character : Char) =>
      if character.isDigit then character.toNat - 48
      else if 'a' ≤ character.toLower && character.toLower ≤ 'f' then
        character.toLower.toNat - 87
      else 99
    let digits := text.takeWhile fun character => digitValue character < base
    let value := digits.foldl (fun value digit => value * base + digitValue digit) 0
    (if negative then -Int.ofNat value else Int.ofNat value, text.drop digits.length)
  match text with
  | '0' :: 'x' :: rest | '0' :: 'X' :: rest => read 16 rest
  | '0' :: _ => read 8 text
  | _ => read 10 text

/-- A numeric argument: its value, and the complaint if it is not a numeral. -/
def numericArgument (argument : Data) : Int × Data :=
  match argument with
  | [] => (0, [])
  | '\x27' :: character :: _ | '"' :: character :: _ => (Int.ofNat character.toNat, [])
  | argument =>
      let (value, rest) := integer argument
      let isNumeral := argument.any Char.isDigit && rest.length < argument.length
      if !isNumeral then
        (0, complain "printf" (String.ofList argument ++ ": expected numeric value"))
      else if rest.isEmpty then (value, [])
      else (value, complain "printf" (String.ofList argument ++ ": not completely converted"))

/-- What printing has come to: the text, the complaints with the status they lead to, the arguments
left, whether any were taken, and whether everything is to end here. -/
structure Printed where
  text : Data
  errors : Data
  status : Nat
  arguments : List Data
  taken : Bool
  ended : Bool

/-- A conversion of a format: its flags, width and precision, and the letter that says what is
printed. -/
structure Conversion where
  flags : Data
  width : Nat
  places : Option Nat
  letter : Char

/-- Read a conversion after its sign; a star takes its number from the arguments. -/
def conversion? (arguments : List Data) (text : Data) :
    Option (Conversion × List Data × Data) :=
  let flags := text.takeWhile fun character => ['-', '0', '+', ' ', '#'].contains character
  let amount (arguments : List Data) (text : Data) : Nat × List Data × Data :=
    match text with
    | '*' :: rest => ((number (arguments.headD [])).toNat, arguments.tail, rest)
    | text =>
        let digits := text.takeWhile Char.isDigit
        ((number digits).toNat, arguments, text.drop digits.length)
  let (width, arguments, rest) := amount arguments (text.drop flags.length)
  let (places, arguments, rest) := match rest with
    | '.' :: rest =>
        let (places, arguments, rest) := amount arguments rest
        (some places, arguments, rest)
    | rest => ((none : Option Nat), arguments, rest)
  match rest with
  | letter :: rest => some (⟨flags, width, places, letter⟩, arguments, rest)
  | [] => none

/-- What a conversion prints for an argument, the complaint, and whether everything ends. -/
def convert (conversion : Conversion) (argument : Data) : Option (Data × Data × Bool) :=
  let cut := fun (text : Data) => match conversion.places with
    | some places => text.take places
    | none => text
  let shown (text errors : Data) (ended : Bool) : Option (Data × Data × Bool) :=
    some (pad conversion.flags conversion.width text, errors, ended)
  let (value, complaint) := numericArgument argument
  let digits := fun (text : Data) => match conversion.places with
    | some places => List.replicate (places - text.length) '0' ++ text
    | none => text
  match conversion.letter with
  | 's' => shown (cut argument) [] false
  | 'b' =>
      let (text, ended) := unescape (argument.length + 1) argument
      shown (cut text) [] ended
  | 'c' => shown (argument.take 1) [] false
  | 'd' | 'i' | 'u' =>
      let sign : Data :=
        if value < 0 then ['-']
        else if conversion.flags.contains '+' then ['+']
        else if conversion.flags.contains ' ' then [' ']
        else []
      shown (sign ++ digits (numeral value.natAbs)) complaint false
  | 'x' => shown (digits (Nat.toDigits 16 value.toNat)) complaint false
  | 'X' => shown (digits ((Nat.toDigits 16 value.toNat).map Char.toUpper)) complaint false
  | 'o' => shown (digits (Nat.toDigits 8 value.toNat)) complaint false
  | _ => none

/-- One pass over a format. -/
def formatOnce : (fuel : Nat) → Printed → Data → Printed
  | 0, printed, _ | _, printed, [] => printed
  | fuel + 1, printed, text =>
      let plain (written : Data) (rest : Data) : Printed :=
        formatOnce fuel { printed with text := printed.text ++ written } rest
      match text with
      | '\\' :: character :: rest =>
          if '0' ≤ character && character ≤ '7' then
            let (value, rest) := octal 3 0 (character :: rest)
            plain [octetCharacter value] rest
          else match letterEscape? character with
            | some escaped => plain [escaped] rest
            | none => plain ['\\'] (character :: rest)
      | '%' :: '%' :: rest => plain ['%'] rest
      | '%' :: rest =>
          match conversion? printed.arguments rest with
          | none => plain ['%'] rest
          | some (conversion, arguments, rest) =>
              match convert conversion (arguments.headD []) with
              | none =>
                  { printed with
                    errors := printed.errors ++ complain "printf"
                      ("%" ++ String.singleton conversion.letter ++ ": invalid directive")
                    status := 2
                    ended := true }
              | some (written, errors, ended) =>
                  let printed : Printed :=
                    { text := printed.text ++ written
                      errors := printed.errors ++ errors
                      status := if errors.isEmpty then printed.status else 1
                      arguments := arguments.tail
                      taken := true
                      ended }
                  if ended then printed else formatOnce fuel printed rest
      | character :: rest => plain [character] rest
      | [] => printed

/-- Print a format again and again until its arguments are used up. -/
def formatAll : (fuel : Nat) → Printed → Data → Printed
  | 0, printed, _ => printed
  | fuel + 1, printed, text =>
      let printed := formatOnce (text.length + 1) { printed with taken := false } text
      if printed.arguments.isEmpty || !printed.taken || printed.ended then printed
      else formatAll fuel printed text

/-- Fill arguments into a format. -/
def format (arguments : List Data) : Effect :=
  match arguments with
  | [] => { status := 2, errors := complain "printf" "usage: printf format [arg ...]" }
  | text :: arguments =>
      let printed := formatAll (arguments.length + 1) ⟨[], [], 0, arguments, false, false⟩ text
      { status := printed.status, output := printed.text, errors := printed.errors }

end MarkupLint.Shell.Utility

import MarkupLint.Shell.Utility.Basic
/-!
# Conditions

The utility that answers a question about texts, numbers and files with its status.
-/

namespace MarkupLint.Shell.Utility

/-- What asking a question yields: an answer, or a complaint about it. -/
abbrev Answer := Except String Bool

/-- The number that a text spells, with blanks around it. -/
def conditionNumber (text : Data) : Except String Int :=
  let trimmed := ((text.dropWhile isSpace).reverse.dropWhile isSpace).reverse
  match number? trimmed with
  | some value => .ok value
  | none => .error ("Illegal number: " ++ String.ofList text)

/-- Ask about one operand. -/
def unaryCondition? (files : FileTree) (operator operand : Data) : Option Answer :=
  let path : Path := ⟨Data.octets operand⟩
  match String.ofList operator with
  | "-n" => some (.ok !operand.isEmpty)
  | "-z" => some (.ok operand.isEmpty)
  | "-f" => some (.ok (files.isFile path))
  | "-d" => some (.ok (files.isDirectory path))
  | "-e" | "-r" | "-w" => some (.ok (files.entry? path).isOk)
  | "-x" => some (.ok (match files.entry? path with
      | .ok (_, .file _ executable) => executable
      | .ok (_, .directory) => true
      | _ => false))
  | "-s" => some (.ok (match files.readOctets path with
      | .ok content => !content.isEmpty
      | .error _ => files.isDirectory path))
  | "-h" | "-L" => some (.ok (match files.resolve path false with
      | .ok location => match files.entryAt? location with
          | some (.link _) => true
          | _ => false
      | .error _ => false))
  | "-t" | "-p" | "-S" | "-b" | "-c" => some (.ok false)
  | _ => none

/-- Ask about two operands. -/
def binaryCondition? (operator left right : Data) : Option Answer :=
  let compare (holds : Int → Int → Bool) : Option Answer :=
    some (do return holds (← conditionNumber left) (← conditionNumber right))
  match String.ofList operator with
  | "=" | "==" => some (.ok (left == right))
  | "!=" => some (.ok (left != right))
  | "<" => some (.ok (left != right && Data.atMost left right))
  | ">" => some (.ok (left != right && Data.atMost right left))
  | "-eq" => compare fun left right => left == right
  | "-ne" => compare fun left right => left != right
  | "-lt" => compare fun left right => left < right
  | "-le" => compare fun left right => left ≤ right
  | "-gt" => compare fun left right => right < left
  | "-ge" => compare fun left right => right ≤ left
  | _ => none

/-- How tightly the operators between questions bind, the loosest first. -/
inductive Tightness where
  | anyOf
  | allOf
  | single

mutual

/-- Ask the question at the start of some arguments; the second result is what follows it. -/
def ask (files : FileTree) : (fuel : Nat) → Tightness → List Data → Except String (Bool × List Data)
  | 0, _, _ => .error "argument expected"
  | fuel + 1, .anyOf, arguments => do
      let (first, rest) ← ask files fuel .allOf arguments
      match rest with
      | ['-', 'o'] :: rest =>
          let (second, rest) ← ask files fuel .anyOf rest
          return (first || second, rest)
      | rest => return (first, rest)
  | fuel + 1, .allOf, arguments => do
      let (first, rest) ← ask files fuel .single arguments
      match rest with
      | ['-', 'a'] :: rest =>
          let (second, rest) ← ask files fuel .allOf rest
          return (first && second, rest)
      | rest => return (first, rest)
  | _ + 1, .single, [] => .error "argument expected"
  | fuel + 1, .single, [first, second] => askSigned files fuel first [second]
  | fuel + 1, .single, first :: second :: third :: rest =>
      match binaryCondition? second first third with
      | some answer => do return (← answer, rest)
      | none => askSigned files fuel first (second :: third :: rest)
  | _ + 1, .single, [text] => .ok (!text.isEmpty, [])

/-- Ask a question that starts with a sign, or else about the first argument alone. -/
def askSigned (files : FileTree) : (fuel : Nat) → Data → List Data →
    Except String (Bool × List Data)
  | 0, _, _ => .error "argument expected"
  | fuel + 1, ['!'], rest => do
      let (answer, rest) ← ask files fuel .single rest
      return (!answer, rest)
  | fuel + 1, ['('], rest => do
      let (answer, rest) ← ask files fuel .anyOf rest
      match rest with
      | [')'] :: rest => return (answer, rest)
      | _ => throw "closing paren expected"
  | _ + 1, operator, operand :: rest =>
      match unaryCondition? files operator operand with
      | some answer => do return (← answer, rest)
      | none => .ok (!operator.isEmpty, operand :: rest)
  | _ + 1, text, [] => .ok (!text.isEmpty, [])

end

/-- Answer a question with a status. -/
def condition (name : String) (files : FileTree) (arguments : List Data) : Effect :=
  let refuse (message : String) : Effect := { status := 2, errors := complain name message }
  let answered (result : Except String (Bool × List Data)) : Effect :=
    match result with
    | .ok (answer, []) => { status := if answer then 0 else 1 }
    | .ok _ => refuse (String.ofList (arguments.headD []) ++ ": unexpected operator")
    | .error message => refuse message
  if arguments.isEmpty then { status := 1 }
  else answered (ask files (4 * arguments.length + 4) .anyOf arguments)

end MarkupLint.Shell.Utility

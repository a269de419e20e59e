import MarkupLint.Shell.Utility.Printing
/-!
# Arithmetic

Integer expressions of the shell: numbers, variables, parentheses, signs, choices, and the binary
operators by descending strength. An expression may give its value to a variable.
-/

namespace MarkupLint.Shell.Arithmetic

/-- The binary operators from the weakest to the strongest. -/
def levels : List (List String) :=
  [["||"], ["&&"], ["|"], ["^"], ["&"], ["==", "!="], ["<=", ">=", "<", ">"], ["<<", ">>"],
    ["+", "-"], ["*", "/", "%"]]

/-- The value of a truth. -/
def ofBool (truth : Bool) : Int := if truth then 1 else 0

/-- What reading an expression yields: its value and what follows it, or what is wrong. -/
abbrev Reading := Except String (Int × Data)

/-- The result of a binary operator. -/
def apply (operator : String) (left right : Int) : Except String Int :=
  match operator with
  | "||" => .ok (ofBool (left != 0 || right != 0))
  | "&&" => .ok (ofBool (left != 0 && right != 0))
  | "|" => .ok (Int.ofNat (left.toNat ||| right.toNat))
  | "^" => .ok (Int.ofNat (left.toNat ^^^ right.toNat))
  | "&" => .ok (Int.ofNat (left.toNat &&& right.toNat))
  | "==" => .ok (ofBool (left == right))
  | "!=" => .ok (ofBool (left != right))
  | "<=" => .ok (ofBool (left ≤ right))
  | ">=" => .ok (ofBool (right ≤ left))
  | "<" => .ok (ofBool (left < right))
  | ">" => .ok (ofBool (right < left))
  | "<<" => .ok (left * Int.ofNat (Nat.pow 2 right.toNat))
  | ">>" => .ok (left / Int.ofNat (Nat.pow 2 right.toNat))
  | "+" => .ok (left + right)
  | "-" => .ok (left - right)
  | "*" => .ok (left * right)
  | "/" => if right = 0 then .error "division by zero" else .ok (left.tdiv right)
  | "%" => if right = 0 then .error "division by zero" else .ok (left.tmod right)
  | _ => .error "expecting EOF"

/-- Drop blanks. -/
def skip (text : Data) : Data := text.dropWhile fun character => [' ', '\t', '\n'].contains character

/-- The operator of a level at the start of a text; one that a longer operator starts with does
not count. -/
def operator? (level : List String) (text : Data) : Option (String × Data) :=
  level.findSome? fun operator =>
    if operator.toList.isPrefixOf text then
      let rest := text.drop operator.length
      let longer := (levels.flatten.filter (·.length = 2)).any fun (other : String) =>
        operator.length = 1 && other.toList.isPrefixOf text
      if longer then none else some (operator, rest)
    else none

/-- Whether a character may be part of a name or a number. -/
def inName (character : Char) : Bool := character.isAlphanum || character == '_'

mutual

/-- Read a choice between two expressions, or a single one. -/
def choice (lookUp : Data → Int) : (fuel : Nat) → Data → Reading
  | 0, _ => .error "expecting primary"
  | fuel + 1, text => do
      let (condition, rest) ← expression lookUp fuel levels text
      match skip rest with
      | '?' :: rest => do
          let (whenTrue, rest) ← choice lookUp fuel rest
          match skip rest with
          | ':' :: rest => do
              let (whenFalse, rest) ← choice lookUp fuel rest
              return (if condition != 0 then whenTrue else whenFalse, rest)
          | _ => throw "expecting ':'"
      | _ => return (condition, rest)

/-- Read an expression of one level or stronger. -/
def expression (lookUp : Data → Int) : (fuel : Nat) → List (List String) → Data → Reading
  | 0, _, _ => .error "expecting primary"
  | fuel + 1, [], text => operand lookUp fuel text
  | fuel + 1, level :: stronger, text => do
      let (left, rest) ← expression lookUp fuel stronger text
      chain lookUp fuel level stronger left rest

/-- Apply the operators of one level from left to right. -/
def chain (lookUp : Data → Int) : (fuel : Nat) → List String → List (List String) → Int → Data →
    Reading
  | 0, _, _, _, _ => .error "expecting primary"
  | fuel + 1, level, stronger, left, text =>
      match operator? level (skip text) with
      | none => .ok (left, text)
      | some (operator, rest) => do
          let (right, rest) ← expression lookUp fuel stronger rest
          chain lookUp fuel level stronger (← apply operator left right) rest

/-- Read a number, a variable, a sign or an expression in parentheses. -/
def operand (lookUp : Data → Int) : (fuel : Nat) → Data → Reading
  | 0, _ => .error "expecting primary"
  | fuel + 1, text =>
      match skip text with
      | '(' :: rest => do
          let (value, rest) ← choice lookUp fuel rest
          match skip rest with
          | ')' :: rest => return (value, rest)
          | _ => throw "expecting ')'"
      | '-' :: rest => do
          let (value, rest) ← operand lookUp fuel rest
          return (-value, rest)
      | '+' :: rest => operand lookUp fuel rest
      | '!' :: rest => do
          let (value, rest) ← operand lookUp fuel rest
          return (ofBool (value == 0), rest)
      | '~' :: rest => do
          let (value, rest) ← operand lookUp fuel rest
          return (-value - 1, rest)
      | text =>
          let name := text.takeWhile inName
          let rest := text.drop name.length
          match name with
          | [] => .error "expecting primary"
          | first :: _ =>
              if !first.isDigit then .ok (lookUp name, rest)
              else
                let (value, unread) := Utility.integer name
                if unread.isEmpty then .ok (value, rest) else .error "expecting EOF"

end

/-- The fuel for reading a text. -/
def plenty (text : Data) : Nat := 16 * (text.length + 2)

/-- The value of a whole expression; an empty one is zero. -/
def evaluate (lookUp : Data → Int) (text : Data) : Except String Int :=
  if (skip text).isEmpty then .ok 0
  else do
    let (value, rest) ← choice lookUp (plenty text) text
    if (skip rest).isEmpty then return value else throw "expecting EOF"

/-- The assignment that a text is: the variable, an operator that joins the old value to the new
one, and the expression. -/
def assignment? (text : Data) : Option (Data × Option String × Data) :=
  let text := skip text
  let name := text.takeWhile inName
  if !name.head?.any (!·.isDigit) then none
  else
    let rest := skip (text.drop name.length)
    match rest with
    | '=' :: '=' :: _ => none
    | '=' :: expression => some (name, none, expression)
    | rest =>
        ["<<", ">>", "+", "-", "*", "/", "%", "|", "&", "^"].findSome? fun operator =>
          let written := operator.toList ++ ['=']
          if written.isPrefixOf rest then some (name, some operator, rest.drop written.length)
          else none

/-- The value of an expression, and the variable that it is given to. -/
def run (lookUp : Data → Int) (text : Data) : Except String (Int × Option Data) :=
  match assignment? text with
  | some (name, operator, expression) => do
      let value ← evaluate lookUp expression
      let value ← match operator with
        | some operator => apply operator (lookUp name) value
        | none => pure value
      return (value, some name)
  | none => do return (← evaluate lookUp text, none)

end MarkupLint.Shell.Arithmetic

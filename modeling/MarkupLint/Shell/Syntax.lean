import MarkupLint.Text.Utf8
/-!
# Shell scripts

The syntax of the command language that engines are often wrapped in. Throughout the shell an
octet is handled as the character with its number, so that scripts, arguments and data of any
encoding pass through unchanged.
-/

namespace MarkupLint.Shell

/-- Data of the shell, an octet to a character. -/
abbrev Data := List Char

/-- The data with the given octets. -/
def Data.ofOctets (octets : Octets) : Data := octets.map fun octet => Char.ofNat octet.toNat

/-- The octets of data. -/
def Data.octets (data : Data) : Octets := data.map fun character => UInt8.ofNat character.toNat

/-- The data of a text. -/
def Data.ofString (text : String) : Data := Data.ofOctets (Octets.ofString text)

/-- Whether data does not come after other data in the order of octets. -/
def Data.atMost : (first second : Data) → Bool
  | [], _ => true
  | _ :: _, [] => false
  | first :: firsts, second :: seconds =>
      first < second || (first == second && Data.atMost firsts seconds)

/-- What a redirection does to a stream. -/
inductive RedirectKind where
  | readFrom
  | writeTo
  | appendTo
  | duplicate
  | readText
deriving DecidableEq, Repr

/-- What an expansion does where a variable is not set. -/
inductive Adjustment where
  | instead
  | assigned
  | refused
  | whenSet
deriving DecidableEq, Repr

mutual

/-- A part of a word. A quoted part is neither split nor taken for a pattern. -/
inductive Part where
  | literal (text : Data) (quoted : Bool)
  | parameter (name : Data) (quoted : Bool)
  | adjusted (name : Data) (emptyToo : Bool) (adjustment : Adjustment) (word : List Part)
      (quoted : Bool)
  | trimmed (name : Data) (fromEnd longest : Bool) (pattern : List Part) (quoted : Bool)
  | size (name : Data)
  | substitution (script : List Statement) (quoted : Bool)
  | arithmetic (expression : List Part) (quoted : Bool)

/-- A redirection of a stream, named by its number. -/
inductive Redirect where
  | redirect (stream : Nat) (kind : RedirectKind) (target : List Part)

/-- A command. A simple one knows how many lines of the script end after its start. -/
inductive Command where
  | simple (linesAfter : Nat) (assignments : List (Data × List Part)) (words : List (List Part))
      (redirects : List Redirect)
  | group (body : List Statement) (redirects : List Redirect)
  | subshell (body : List Statement) (redirects : List Redirect)
  | conditional (branches : List (List Statement × List Statement)) (otherwise : List Statement)
      (redirects : List Redirect)
  | loop (ends : Bool) (condition body : List Statement) (redirects : List Redirect)
  | forEach (name : Data) (words : Option (List (List Part))) (body : List Statement)
      (redirects : List Redirect)
  | choice (word : List Part) (branches : List (List (List Part) × List Statement))
      (redirects : List Redirect)
  | definition (name : Data) (body : Command)

/-- Commands joined by pipes; the status may be negated. -/
inductive Pipeline where
  | pipeline (negated : Bool) (commands : List Command)

/-- Pipelines joined by `&&` and `||`. -/
inductive Statement where
  | statement (first : Pipeline) (rest : List (Bool × Pipeline))

end

instance : Inhabited Command := ⟨.group [] []⟩

end MarkupLint.Shell

import MarkupLint.Shell.Regex.Reader
/-!
# Patterns

A word is expanded to fields whose characters remember whether they were quoted. The unquoted
signs of a field make it a pattern for whole names.
-/

namespace MarkupLint.Shell

/-- A character of an expanded word, and whether it was quoted. -/
structure Mark where
  character : Char
  quoted : Bool
deriving DecidableEq, Repr

/-- A field: the characters of one expanded word. -/
abbrev Field := List Mark

namespace Field

/-- The characters of a field. -/
def data (field : Field) : Data := field.map Mark.character

/-- Characters that are all quoted or all not. -/
def ofData (data : Data) (quoted : Bool) : Field := data.map fun character => ⟨character, quoted⟩

/-- The expressions for the parts of the pattern that a field is. -/
def expressions : (fuel : Nat) → Field → List Regex
  | 0, _ | _, [] => []
  | fuel + 1, mark :: rest =>
      let plain : Regex := .one (.exactly mark.character)
      if mark.quoted then plain :: expressions fuel rest
      else match mark.character, rest with
        | '*', rest => .repeated (.one .any) 0 none :: expressions fuel rest
        | '?', rest => .one .any :: expressions fuel rest
        | '\\', next :: rest => .one (.exactly next.character) :: expressions fuel rest
        | '[', rest =>
            match Regex.set? ['!', '^'] (Field.data rest) with
            | some (accepts, after) =>
                .one accepts :: expressions fuel (rest.drop (rest.length - after.length))
            | none => plain :: expressions fuel rest
        | _, rest => plain :: expressions fuel rest

/-- The expression for the names that a field matches. -/
def expression (field : Field) : Regex := .ofList (field.expressions (field.length + 1))

/-- Whether the field matches a whole name. -/
def matchesName (field : Field) (name : Data) : Bool := field.expression.matchesAll name

/-- Whether some unquoted character makes the field a pattern. -/
def isPattern (field : Field) : Bool :=
  field.any fun mark => !mark.quoted && ['*', '?', '['].contains mark.character

/-- Take the shortest or the longest part that a pattern matches off one end of a text. -/
def trim (field : Field) (fromEnd longest : Bool) (text : Data) : Data :=
  let lengths := List.range (text.length + 1)
  let lengths := if longest then lengths.reverse else lengths
  let removed := lengths.find? fun length =>
    field.matchesName (if fromEnd then text.drop (text.length - length) else text.take length)
  match removed with
  | some length => if fromEnd then text.take (text.length - length) else text.drop length
  | none => text

end Field

end MarkupLint.Shell

/-!
# Blank characters

The characters with the Unicode property `White_Space`, and trimming them from both ends of a text.
-/

namespace MarkupLint.Text

/-- Whether a character has the property `White_Space`. -/
def isBlank (character : Char) : Bool :=
  let code := character.toNat
  (0x09 ≤ code && code ≤ 0x0D) || code == 0x20 || code == 0x85 || code == 0xA0 ||
    code == 0x1680 || (0x2000 ≤ code && code ≤ 0x200A) || code == 0x2028 || code == 0x2029 ||
    code == 0x202F || code == 0x205F || code == 0x3000

/-- Drop the blank characters at both ends. -/
def trim (text : List Char) : List Char :=
  ((text.dropWhile isBlank).reverse.dropWhile isBlank).reverse

/-- Drop the blank characters at both ends of a string. -/
def trimString (text : String) : String :=
  String.ofList (trim text.toList)

example : trimString " \n a b\u00a0\u3000" = "a b" := by decide

end MarkupLint.Text

import MarkupLint.Text.Utf8
/-!
# Percent encoding

An octet that may not stand in a URI is written as a percent sign and two hexadecimal digits. Each
part of a URI has its own set of characters that are written so; characters outside ASCII always
are, octet by octet. Reading leaves a percent sign alone that no two digits follow.
-/

namespace MarkupLint.Percent

/-- A hexadecimal digit in upper case. -/
def hexDigit (value : Nat) : Char :=
  if value < 10 then Char.ofNat ('0'.toNat + value) else Char.ofNat ('A'.toNat + (value - 10))

/-- The value of a hexadecimal digit in either case. -/
def hexValue? (character : Char) : Option Nat :=
  let code := character.toNat
  if '0'.toNat ≤ code ∧ code ≤ '9'.toNat then some (code - '0'.toNat)
  else if 'a'.toNat ≤ code ∧ code ≤ 'f'.toNat then some (code - 'a'.toNat + 10)
  else if 'A'.toNat ≤ code ∧ code ≤ 'F'.toNat then some (code - 'A'.toNat + 10)
  else none

/-- The written form of an octet. -/
def encodeOctet (octet : UInt8) : List Char :=
  ['%', hexDigit (octet.toNat / 16), hexDigit (octet.toNat % 16)]

/-- Controls and characters outside ASCII, which are written so everywhere. -/
def isControl (character : Char) : Bool := character.toNat < 0x20 || 0x7F ≤ character.toNat

/-- The characters that are written so in a fragment. -/
def inFragment (character : Char) : Bool :=
  isControl character || [' ', '"', '<', '>', '\x60'].contains character

/-- The characters that are written so in a path of segments. -/
def inPath (character : Char) : Bool :=
  inFragment character || ['#', '?', '\x7b', '\x7d'].contains character

/-- The characters that are written so in a user name or password. -/
def inCredentials (character : Char) : Bool :=
  inPath character || ['/', ':', ';', '=', '@', '[', '\\', ']', '^', '|'].contains character

/-- The characters that are written so in a query. -/
def inQuery (character : Char) : Bool :=
  isControl character || [' ', '"', '#', '<', '>'].contains character

/-- The characters that are written so in a query of a special scheme. -/
def inSpecialQuery (character : Char) : Bool := inQuery character || character == '\x27'

/-- A text with the characters of a set encoded. -/
def encode (set : Char → Bool) (text : List Char) : List Char :=
  text.flatMap fun character =>
    if set character then (String.utf8EncodeChar character).flatMap encodeOctet else [character]

/-- The octets that a text stands for. -/
def decode : List Char → Octets
  | [] => []
  | '%' :: high :: low :: rest =>
      match hexValue? high, hexValue? low with
      | some highValue, some lowValue =>
          UInt8.ofNat (highValue * 16 + lowValue) :: decode rest
      | _, _ => 0x25 :: decode (high :: low :: rest)
  | character :: rest => String.utf8EncodeChar character ++ decode rest
termination_by text => text.length

example : encode inPath "a é%20".toList = "a%20%C3%A9%20".toList := by decide

end MarkupLint.Percent

/-!
# UTF-8

Texts are stored and exchanged as octets. Decoding walks the octets once, keeping the continuation
octets that the current character still owes, and yields for each character, or for each longest
broken beginning of one, a single piece. A strict reading needs every piece to be a character; a
lenient reading shows a broken piece as the replacement character.
-/

namespace MarkupLint

/-- A sequence of octets, such as the content of a file. -/
abbrev Octets := List UInt8

/-- The octets of a text, character by character. -/
def Octets.ofString (text : String) : Octets :=
  text.toList.flatMap String.utf8EncodeChar

namespace Utf8

/-- What the walk still owes: nothing, or some continuation octets of a character, the next of
which lies between two bounds. -/
inductive Pending where
  | nothing
  | continuation (more : Nat) (low high : UInt8) (code : Nat)
deriving DecidableEq

/-- What the first octet of a character announces. -/
inductive Lead where
  | single (code : Nat)
  | opens (pending : Pending)
  | broken

/-- The first octet fixes the number of octets and bounds the second, so that neither overlong
forms nor surrogates nor codes past the last one are opened. -/
def lead (octet : UInt8) : Lead :=
  let code := octet.toNat
  if code < 0x80 then .single code
  else if code < 0xC2 then .broken
  else if code < 0xE0 then .opens (.continuation 1 0x80 0xBF (code - 0xC0))
  else if code < 0xF0 then
    let low := if code = 0xE0 then 0xA0 else 0x80
    let high := if code = 0xED then 0x9F else 0xBF
    .opens (.continuation 2 low high (code - 0xE0))
  else if code < 0xF5 then
    let low := if code = 0xF0 then 0x90 else 0x80
    let high := if code = 0xF4 then 0x8F else 0xBF
    .opens (.continuation 3 low high (code - 0xF0))
  else .broken

/-- The pieces read so far, the last one first: a character, or none for a broken one. -/
abbrev Pieces := List (Option Char)

/-- Take an octet where a character may start. -/
def start (pieces : Pieces) (octet : UInt8) : Pieces × Pending :=
  match lead octet with
  | .single code => (some (Char.ofNat code) :: pieces, .nothing)
  | .opens pending => (pieces, pending)
  | .broken => (none :: pieces, .nothing)

/-- Take one octet. One that does not continue the open character breaks it and starts anew. -/
def advance : Pieces × Pending → UInt8 → Pieces × Pending
  | (pieces, .nothing), octet => start pieces octet
  | (pieces, .continuation more low high code), octet =>
      if low ≤ octet ∧ octet ≤ high then
        let extended := code * 64 + (octet.toNat - 0x80)
        if more ≤ 1 then (some (Char.ofNat extended) :: pieces, .nothing)
        else (pieces, .continuation (more - 1) 0x80 0xBF extended)
      else start (none :: pieces) octet

/-- All pieces in order; a character left open at the end is a broken one. -/
def pieces (octets : Octets) : Pieces :=
  match octets.foldl advance ([], .nothing) with
  | (read, .nothing) => read.reverse
  | (read, .continuation ..) => (none :: read).reverse

/-- Strict reading: the text, if every octet belongs to a character. -/
def decode? (octets : Octets) : Option String :=
  ((pieces octets).mapM id).map String.ofList

/-- Lenient reading: each broken piece becomes the replacement character. -/
def decodeLossy (octets : Octets) : String :=
  String.ofList ((pieces octets).map (·.getD '\uFFFD'))

end Utf8

end MarkupLint

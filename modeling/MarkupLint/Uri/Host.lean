import MarkupLint.Uri.Percent
/-!
# Hosts

A host is an address of four or sixteen octets or a name. Under the special schemes a name is
percent-decoded, put into lower case and checked, and a name that ends in a number must be an
address; under other schemes it is kept as it is.
-/

namespace MarkupLint.Host

/-- The characters that no host may hold. -/
def isForbidden (character : Char) : Bool :=
  ['\x00', '\t', '\n', '\r', ' ', '#', '/', ':', '<', '>', '?', '@', '[', '\\', ']', '^',
    '|'].contains character

/-- The characters that no name under a special scheme may hold. -/
def isForbiddenInName (character : Char) : Bool :=
  isForbidden character || character.toNat < 0x20 || character == '%' || character.toNat == 0x7F

/-- The parts of a text between separators. -/
def split (separator : Char) : List Char → List (List Char)
  | [] => [[]]
  | character :: rest =>
      if character = separator then [] :: split separator rest
      else match split separator rest with
        | [] => [[character]]
        | part :: others => (character :: part) :: others

/-- A number in some base, if all characters are digits of it. -/
def numberIn? (base : Nat) (digits : List Char) : Option Nat :=
  digits.foldlM (fun value digit =>
    match Percent.hexValue? digit with
    | some amount => if amount < base then some (value * base + amount) else none
    | none => none) 0

/-- A part of an address: a number in decimal, octal after `0`, or hexadecimal after `0x`. -/
def addressPart? : List Char → Option Nat
  | '0' :: 'x' :: digits => numberIn? 16 digits
  | '0' :: 'X' :: digits => numberIn? 16 digits
  | '0' :: digit :: digits => numberIn? 8 (digit :: digits)
  | [] => none
  | digits => numberIn? 10 digits

/-- The parts of a name without an empty last one. -/
def labels (name : List Char) : List (List Char) :=
  match (split '.' name).reverse with
  | [] :: first :: rest => (first :: rest).reverse
  | parts => parts.reverse

/-- Whether the last part of a name is a number. -/
def endsInNumber (name : List Char) : Bool :=
  match (labels name).getLast? with
  | none => false
  | some [] => false
  | some last => last.all Char.isDigit || (addressPart? last).isSome

/-- The written form of an address of four octets. -/
def showAddress (address : Nat) : List Char :=
  (String.intercalate "." ([24, 16, 8, 0].map fun shift =>
    toString (address >>> shift % 256))).toList

/-- An address of four octets: up to four numbers, the last of which fills all that is left. -/
def address? (name : List Char) : Option (List Char) := do
  let numbers ← (labels name).mapM addressPart?
  match numbers.reverse with
  | [] => none
  | last :: front =>
      if 3 < front.length || front.any (255 < ·) then none
      else if Nat.pow 256 (4 - front.length) ≤ last then none
      else
        let upper := front.reverse.zipIdx.map fun (number, index) =>
          number * Nat.pow 256 (3 - index)
        some (showAddress (upper.foldl Nat.add last))

/-- The groups of one side of an address of sixteen octets; an address of four octets may stand
for the last two. -/
def groups? (text : List Char) : Option (List Nat) :=
  if text.isEmpty then some []
  else do
    let parts := split ':' text
    let front ← parts.dropLast.mapM group?
    let last := parts.getLast?.getD []
    if last.contains '.' then
      let numbers ← (split '.' last).mapM fun part =>
        if part.length > 1 && part.head? == some '0' then none
        else if part.isEmpty then none else numberIn? 10 part
      match numbers with
      | [a, b, c, d] =>
          if [a, b, c, d].any (255 < ·) then none
          else some (front ++ [a * 256 + b, c * 256 + d])
      | _ => none
    else return front ++ [← group? last]
where
  /-- A group of up to four hexadecimal digits. -/
  group? (digits : List Char) : Option Nat :=
    if digits.isEmpty || 4 < digits.length then none else numberIn? 16 digits

/-- The text split at the first pair of colons. -/
def splitGap : List Char → List Char × Option (List Char)
  | ':' :: ':' :: rest => ([], some rest)
  | [] => ([], none)
  | character :: rest =>
      let (before, after) := splitGap rest
      (character :: before, after)

/-- The eight groups of an address of sixteen octets. A pair of colons stands for the groups that
are left out. -/
def allGroups? (text : List Char) : Option (List Nat) :=
  match splitGap text with
  | (all, none) => do
      let groups ← groups? all
      if groups.length = 8 then some groups else none
  | (before, some after) => do
      let front ← groups? before
      let back ← groups? after
      if before.contains '.' || 7 < front.length + back.length then none
      else some (front ++ List.replicate (8 - front.length - back.length) 0 ++ back)

/-- The start and length of the first longest run of zero groups. -/
def longestGap (groups : List Nat) : Nat × Nat :=
  (List.range groups.length).foldl (fun best start =>
    let run := ((groups.drop start).takeWhile (· == 0)).length
    if best.2 < run then (start, run) else best) (0, 0)

/-- A number in hexadecimal. -/
def showGroup (group : Nat) : List Char := Nat.toDigits 16 group

/-- The written form of eight groups. -/
def showGroups (groups : List Nat) : List Char :=
  let joined (groups : List Nat) : List Char := ([':'] : List Char).intercalate (groups.map showGroup)
  let (start, run) := longestGap groups
  if run < 2 then joined groups
  else joined (groups.take start) ++ [':', ':'] ++ joined (groups.drop (start + run))

/-- An address in brackets, in its shortest form. -/
def bracketed? (text : List Char) : Option String := do
  if text.getLast? != some ']' then none
  let groups ← allGroups? text.dropLast
  return String.ofList ('[' :: (showGroups groups ++ [']']))

/-- The host under a special scheme. -/
def ofSpecial? (text : List Char) : Option String :=
  match text with
  | '[' :: rest => bracketed? rest
  | text => do
      let decoded ← Utf8.decode? (Percent.decode text)
      let name := decoded.toList.map Char.toLower
      if name.isEmpty || name.any isForbiddenInName then none
      else if endsInNumber name then return String.ofList (← address? name)
      else some (String.ofList name)

/-- The host under any other scheme. -/
def ofOpaque? (text : List Char) : Option String :=
  match text with
  | '[' :: rest => bracketed? rest
  | text =>
      if text.any isForbidden then none
      else some (String.ofList (Percent.encode Percent.isControl text))

end MarkupLint.Host

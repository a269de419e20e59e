import MarkupLint.Uri.Basic
import MarkupLint.Uri.Host
/-!
# Reading identifiers

A text is an identifier if it starts with a scheme and a colon; relative references are none. The
special schemes take backslashes for slashes and need a host, the scheme of files goes without one.
Reading puts the identifier into its normal form.
-/

namespace MarkupLint.Uri

/-- What a scheme lets stand after it. -/
inductive SchemeKind where
  | file
  | special (defaultPort : Nat)
  | other
deriving DecidableEq, Repr

/-- The kind of a scheme. -/
def kindOf : String → SchemeKind
  | "file" => .file
  | "http" | "ws" => .special 80
  | "https" | "wss" => .special 443
  | "ftp" => .special 21
  | _ => .other

namespace SchemeKind

/-- Whether backslashes count as slashes. -/
def isSpecial : SchemeKind → Bool
  | .other => false
  | _ => true

/-- Whether a character separates segments. -/
def isSlash (kind : SchemeKind) (character : Char) : Bool :=
  character == '/' || (kind.isSpecial && character == '\\')

end SchemeKind

/-- Whether a query or a fragment starts with the character. -/
def endsPath (character : Char) : Bool := character == '?' || character == '#'

/-- Split the scheme off a text. -/
def splitScheme (text : List Char) : Option (String × List Char) :=
  let isInner (character : Char) : Bool :=
    character.isAlphanum || ['+', '-', '.'].contains character
  let name := text.takeWhile isInner
  match name, text.drop name.length with
  | first :: _, ':' :: rest =>
      if first.isAlpha then some (String.ofList (name.map Char.toLower), rest) else none
  | _, _ => none

/-- Whether a segment is a single dot, the dot possibly encoded. -/
def isDot (segment : List Char) : Bool :=
  segment == ['.'] || segment.map Char.toLower == "%2e".toList

/-- Whether a segment is two dots, each possibly encoded. -/
def isDotDot (segment : List Char) : Bool :=
  ["..", "%2e.", ".%2e", "%2e%2e"].contains (String.ofList (segment.map Char.toLower))

/-- Whether a segment is the name of a drive. -/
def isDrive : List Char → Bool
  | [letter, mark] => letter.isAlpha && (mark == ':' || mark == '|')
  | _ => false

/-- The segments of a path as they are collected, each of which a slash follows, the last one
first. -/
abbrev Passed := List (List Char)

/-- Add a segment that is no dot segment. In the path of a file the first segment may be a drive,
which always ends with a colon and stands apart from what follows it. -/
def addSegment (kind : SchemeKind) (passed : Passed) (segment : List Char) : Passed :=
  match kind, passed, segment with
  | .file, [], [letter, mark] =>
      if isDrive [letter, mark] then [[letter, ':']] else [segment]
  | .file, [], letter :: ':' :: rest =>
      if letter.isAlpha then [rest, [letter, ':']] else [segment]
  | _, passed, segment => segment :: passed

/-- The passed segments without the last one, unless that is a drive. -/
def shorten : Passed → Passed
  | [] => []
  | last :: passed => if isDrive last then last :: passed else passed

/-- Resolve the segments of a path. The result holds the segments in order; an empty last one
stands for a path that ends with a slash. -/
def resolveSegments (kind : SchemeKind) (passed : Passed) : List (List Char) → List (List Char)
  | [] => passed.reverse ++ [[]]
  | [last] =>
      if isDotDot last then (shorten passed).reverse ++ [[]]
      else if isDot last then passed.reverse ++ [[]]
      else (addSegment kind passed last).reverse
  | segment :: rest =>
      if isDotDot segment then resolveSegments kind (shorten passed) rest
      else if isDot segment then resolveSegments kind passed rest
      else resolveSegments kind (addSegment kind passed segment) rest

/-- The path with the given text after its first slash. In the path of a file no empty segments
stand at the start. -/
def pathOfText (kind : SchemeKind) (text : List Char) : List Char :=
  let marked := text.map fun character => if kind.isSlash character then '/' else character
  let encoded := (segments marked).map (Percent.encode Percent.inPath)
  let resolved := resolveSegments kind [] encoded
  let path := (['/'] : List Char).intercalate resolved
  match kind with
  | .file => '/' :: path.dropWhile (· == '/')
  | _ => '/' :: path

/-- The query and the fragment in the text after a path. -/
def queryAndFragment (kind : SchemeKind) (text : List Char) : Option String × Option String :=
  let set := if kind.isSpecial then Percent.inSpecialQuery else Percent.inQuery
  let (query, text) := match text with
    | '?' :: rest =>
        let inner := rest.takeWhile (· != '#')
        (some (String.ofList (Percent.encode set inner)), rest.drop inner.length)
    | text => (none, text)
  match text with
  | '#' :: rest => (query, some (String.ofList (Percent.encode Percent.inFragment rest)))
  | _ => (query, none)

/-- The identifier with a given text after its authority. A path of a special scheme always has a
slash at its start. -/
def finish (scheme : String) (authority : Option Authority) (text : List Char) : Uri :=
  let kind := kindOf scheme
  let written := text.takeWhile (!endsPath ·)
  let path := match written with
    | [] => if kind.isSpecial then ['/'] else []
    | first :: rest =>
        if kind.isSlash first then pathOfText kind rest else pathOfText kind (first :: rest)
  let (query, fragment) := queryAndFragment kind (text.drop written.length)
  ⟨scheme, authority, String.ofList path, query, fragment⟩

/-- The identifier whose path is not made of segments. -/
def finishOpaque (scheme : String) (text : List Char) : Uri :=
  let written := text.takeWhile (!endsPath ·)
  let (query, fragment) := queryAndFragment .other (text.drop written.length)
  ⟨scheme, none, String.ofList (Percent.encode Percent.isControl written), query, fragment⟩

/-- The credentials in a text, of which an empty password is left out. -/
def credentialsOf (text : List Char) : String :=
  let encode := Percent.encode Percent.inCredentials
  let name := text.takeWhile (· != ':')
  let password := text.drop (name.length + 1)
  String.ofList (encode name ++ if password.isEmpty then [] else ':' :: encode password)

/-- The length of the host at the start of a text. -/
def hostLength (inBrackets : Bool) : List Char → Nat
  | [] => 0
  | character :: rest =>
      if character == ':' && !inBrackets then 0
      else
        let inBrackets := character == '[' || (inBrackets && character != ']')
        1 + hostLength inBrackets rest

/-- The port in the text after a host; the default port of the scheme is left out. -/
def portOf? (kind : SchemeKind) : List Char → Option (Option Nat)
  | [] => some none
  | ':' :: digits =>
      if !digits.all Char.isDigit then none
      else if digits.isEmpty then some none
      else
        let number := digits.foldl (fun value digit => value * 10 + (digit.toNat - '0'.toNat)) 0
        if 65535 < number then none
        else if kind = .special number then some none else some (some number)
  | _ => none

/-- The authority in a text, if it is well formed. -/
def authorityOf? (kind : SchemeKind) (text : List Char) : Option Authority := do
  let server := (text.reverse.takeWhile (· != '@')).reverse
  let hasLogin := text.contains '@'
  let login := text.take (text.length - server.length - 1)
  if hasLogin && server.isEmpty then none
  let credentials := credentialsOf login
  let hostText := server.take (hostLength false server)
  let after := server.drop hostText.length
  if hostText.isEmpty && (!after.isEmpty || kind.isSpecial || credentials != "") then none
  let host ← if kind.isSpecial then Host.ofSpecial? hostText else Host.ofOpaque? hostText
  return ⟨credentials, host, ← portOf? kind after⟩

/-- The identifier with the text after the two slashes. -/
def afterSlashes? (scheme : String) (text : List Char) : Option Uri := do
  let kind := kindOf scheme
  let written := text.takeWhile fun character => !(kind.isSlash character || endsPath character)
  let authority ← authorityOf? kind written
  return finish scheme (some authority) (text.drop written.length)

/-- The identifier of a file with the text after the two slashes. A drive in the place of the host
belongs to the path, the local host is left out, and a path that starts with a drive has none. -/
def fileAfterSlashes? (text : List Char) : Option Uri := do
  let written := text.takeWhile fun character =>
    !(SchemeKind.file.isSlash character || endsPath character)
  if isDrive written || written.isEmpty then return finish "file" (some .none) text
  else
    let host ← Host.ofSpecial? written
    let uri := finish "file" (some .none) (text.drop written.length)
    let startsWithDrive := (segments (uri.path.toList.drop 1)).head?.any isDrive
    if host = "localhost" || startsWithDrive then return uri
    else return { uri with authority := some ⟨"", host, none⟩ }

/-- The identifier of a file with the text after the scheme. -/
def file? : List Char → Option Uri
  | first :: second :: rest =>
      if SchemeKind.file.isSlash first && SchemeKind.file.isSlash second then
        fileAfterSlashes? rest
      else some (finish "file" (some .none) (first :: second :: rest))
  | text => some (finish "file" (some .none) text)

/-- The identifier that a text writes. Blanks and controls at its ends and line breaks and
tabulators anywhere are skipped. -/
def ofString? (text : String) : Option Uri := do
  let isEdge (character : Char) : Bool := character.toNat ≤ 0x20
  let trimmed := ((text.toList.dropWhile isEdge).reverse.dropWhile isEdge).reverse
  let kept := trimmed.filter fun character => !(['\t', '\n', '\r'].contains character)
  let (scheme, rest) ← splitScheme kept
  match kindOf scheme with
  | .file => file? rest
  | .special _ => afterSlashes? scheme (rest.dropWhile fun character => character == '/' || character == '\\')
  | .other =>
      match rest with
      | '/' :: '/' :: rest => afterSlashes? scheme rest
      | '/' :: _ => some (finish scheme none rest)
      | _ => some (finishOpaque scheme rest)

end MarkupLint.Uri

import MarkupLint.Path
import MarkupLint.Uri.Percent
/-!
# Resource identifiers

Hosts name documents by identifiers in a normal form: the scheme in lower case, dot segments
resolved, and every character that may not stand there percent-encoded. An identifier leads to a
file if its path starts with a slash and no host but the local one is named; its query and its
fragment do not matter then.
-/

namespace MarkupLint

/-- Who and where an identifier points to, between the two slashes and the path. -/
structure Authority where
  credentials : String
  host : String
  port : Option Nat
deriving DecidableEq, Repr

/-- A resource identifier in normal form. -/
structure Uri where
  scheme : String
  authority : Option Authority
  path : String
  query : Option String
  fragment : Option String
deriving DecidableEq, Repr

namespace Authority

/-- The authority that names nothing. -/
def none : Authority := ⟨"", "", Option.none⟩

/-- The written form. -/
def text (authority : Authority) : String :=
  let login := if authority.credentials = "" then "" else authority.credentials ++ "@"
  let port := match authority.port with
    | some number => ":" ++ toString number
    | Option.none => ""
  login ++ authority.host ++ port

end Authority

namespace Uri

/-- The text before the path. Without an authority, a path that starts with two slashes is kept
apart from one. -/
def beforePath (uri : Uri) : String :=
  match uri.authority with
  | some authority => "//" ++ authority.text
  | none => if uri.path.toList.take 2 = ['/', '/'] then "/." else ""

/-- The written form. -/
def text (uri : Uri) : String :=
  uri.scheme ++ ":" ++ uri.beforePath ++ uri.path ++
    ((uri.query.map ("?" ++ ·)).getD "") ++ ((uri.fragment.map ("#" ++ ·)).getD "")

/-- The text between slashes. -/
def segments : List Char → List (List Char)
  | [] => [[]]
  | character :: rest =>
      if character = '/' then [] :: segments rest
      else match segments rest with
        | [] => [[character]]
        | segment :: others => (character :: segment) :: others

/-- Whether octets end in a letter and a colon or bar, the name of a drive. -/
def endsInDrive (octets : Octets) : Bool :=
  match octets.reverse with
  | last :: letter :: _ :: _ =>
      (last == 0x3A || last == 0x7C) && (Char.ofNat letter.toNat).isAlpha
  | _ => false

/-- Whether the identifier names no host but the local one. -/
def isLocal (uri : Uri) : Bool :=
  match uri.authority with
  | none => true
  | some authority => authority.host = "" || authority.host = "localhost"

/-- The path of the file that the identifier leads to. -/
def path? (uri : Uri) : Option Path :=
  match uri.path.toList with
  | '/' :: rest =>
      if !uri.isLocal then none
      else
        let octets := (segments rest).flatMap fun segment => 0x2F :: Percent.decode segment
        some ⟨if endsInDrive octets then octets ++ [0x2F] else octets⟩
  | _ => none

end Uri

end MarkupLint

import MarkupLint.Uri.Basic
/-!
# Open documents

The host sends the text of every document that it has open, and each text with a version.
-/

namespace MarkupLint.Server

/-- The text of a document and its version. -/
structure Document where
  text : String
  version : Int
deriving DecidableEq, Repr

/-- The open documents, each under its identifier, in the order in which they came to be known. -/
structure Documents where
  entries : List (Uri × Document)
deriving DecidableEq, Repr

namespace Documents

/-- No open documents. -/
def empty : Documents := ⟨[]⟩

/-- The document under an identifier. -/
def get? (documents : Documents) (uri : Uri) : Option Document := documents.entries.lookup uri

/-- Put a document in the place of the one under its identifier, or else at the end. -/
def insertEntry (uri : Uri) (document : Document) :
    List (Uri × Document) → List (Uri × Document)
  | [] => [(uri, document)]
  | (other, known) :: rest =>
      if other = uri then (uri, document) :: rest
      else (other, known) :: insertEntry uri document rest

/-- The documents with one more, or another, text under an identifier. -/
def insert (documents : Documents) (uri : Uri) (document : Document) : Documents :=
  ⟨insertEntry uri document documents.entries⟩

/-- The documents without the one under an identifier. -/
def erase (documents : Documents) (uri : Uri) : Documents :=
  ⟨documents.entries.filter fun entry => entry.1 != uri⟩

end Documents

end MarkupLint.Server

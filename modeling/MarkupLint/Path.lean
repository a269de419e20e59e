import MarkupLint.Text.Utf8
/-!
# Paths

A path is a sequence of octets in which slashes separate the components. Repeated slashes, inner
dots and a trailing slash make no difference to its components, and paths are compared by those.
-/

namespace MarkupLint

/-- A path as it is spelled. -/
structure Path where
  octets : Octets
deriving DecidableEq, Repr, Inhabited

namespace Path

/-- The octet of the character that separates components. -/
def slash : UInt8 := 0x2F

/-- The octet of a dot. -/
def dot : UInt8 := 0x2E

/-- The path spelled by a text. -/
def ofString (text : String) : Path := ⟨Octets.ofString text⟩

/-- The text of the path, as messages show it. -/
def display (path : Path) : String := Utf8.decodeLossy path.octets

/-- The part of a path that names one step. -/
inductive Component where
  | root
  | current
  | parent
  | name (octets : Octets)
deriving DecidableEq, Repr

/-- The octets between the slashes. -/
def segments : Octets → List Octets
  | [] => [[]]
  | octet :: rest =>
      if octet = slash then [] :: segments rest
      else match segments rest with
        | [] => [[octet]]
        | segment :: others => (octet :: segment) :: others

/-- The component that a segment past the first stands for, if any. -/
def Component.ofSegment? (segment : Octets) : Option Component :=
  if segment = [] ∨ segment = [dot] then none
  else if segment = [dot, dot] then some .parent
  else some (.name segment)

/-- Whether the path starts at the root. -/
def isAbsolute (path : Path) : Bool := path.octets.head? == some slash

/-- The components of a path. A dot counts only at the start of a relative path. -/
def components (path : Path) : List Component :=
  let inner := (segments path.octets).filterMap Component.ofSegment?
  if path.isAbsolute then .root :: inner
  else if (segments path.octets).head? = some [dot] then .current :: inner
  else inner

/-- The last component, if it is a name. -/
def fileName? (path : Path) : Option Octets :=
  match path.components.getLast? with
  | some (.name octets) => some octets
  | _ => none

/-- What follows the last dot of a file name, unless that dot is the first octet. -/
def extensionOf? (name : Octets) : Option Octets :=
  if name.contains dot then
    let after := (name.reverse.takeWhile (· != dot)).reverse
    if after.length + 1 = name.length then none else some after
  else none

/-- The extension of the file name. -/
def extension? (path : Path) : Option Octets := path.fileName?.bind extensionOf?

/-- The path followed by another one, which replaces it if it is absolute. -/
def join (path other : Path) : Path :=
  if other.isAbsolute then other
  else match path.octets.getLast? with
    | none => other
    | some last =>
        if last = slash then ⟨path.octets ++ other.octets⟩
        else ⟨path.octets ++ slash :: other.octets⟩

namespace Component

/-- The order of the kinds of components. -/
def rank : Component → Nat
  | .root => 0
  | .current => 1
  | .parent => 2
  | .name _ => 3

/-- The order of names, octet by octet. -/
def compareNames : (first second : Octets) → Ordering
  | [], [] => .eq
  | [], _ :: _ => .lt
  | _ :: _, [] => .gt
  | first :: firsts, second :: seconds =>
      (Ord.compare first second).then (compareNames firsts seconds)

/-- Kinds first, then names. -/
def compare : (first second : Component) → Ordering
  | .name first, .name second => compareNames first second
  | first, second => Ord.compare first.rank second.rank

end Component

/-- The order of lists of components, component by component. -/
def compareComponents : List Component → List Component → Ordering
  | [], [] => .eq
  | [], _ :: _ => .lt
  | _ :: _, [] => .gt
  | first :: firsts, second :: seconds =>
      (first.compare second).then (compareComponents firsts seconds)

/-- The order of paths by their components. -/
def compare (first second : Path) : Ordering :=
  compareComponents first.components second.components

/-- Whether a path does not come after another one. -/
def atMost (first second : Path) : Bool := first.compare second != .gt

/-- Whether two paths have the same components. -/
def same (first second : Path) : Bool := first.components == second.components

end Path

end MarkupLint

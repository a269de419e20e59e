import MarkupLint.Json.Number
/-!
# Document values

A value is a scalar, an array or an object. The members of an object form a list; a canonical value
keeps them in ascending order of their keys and without repetition, which makes equality of values
the equality of what can be looked up. Reading a text, merging and building keep values canonical,
while a document that is still to be decoded may repeat a key.
-/

namespace MarkupLint

/-- A document value. -/
inductive Json where
  | null
  | bool (value : Bool)
  | number (value : Json.Number)
  | string (value : String)
  | array (items : List Json)
  | object (members : List (String × Json))
deriving Repr, Inhabited

namespace Json

/-- The members of an object. -/
abbrev Members := List (String × Json)

mutual

/-- Equality of values is decidable, item by item and member by member. -/
private def decideEq : (first second : Json) → Decidable (first = second)
  | .null, .null => isTrue rfl
  | .bool first, .bool second => decidable_of_iff (first = second) (by simp)
  | .number first, .number second => decidable_of_iff (first = second) (by simp)
  | .string first, .string second => decidable_of_iff (first = second) (by simp)
  | .array first, .array second =>
      match decideItemsEq first second with
      | isTrue equal => isTrue (by rw [equal])
      | isFalse different => isFalse (by simpa using different)
  | .object first, .object second =>
      match decideMembersEq first second with
      | isTrue equal => isTrue (by rw [equal])
      | isFalse different => isFalse (by simpa using different)
  | .null, .bool _ | .null, .number _ | .null, .string _ | .null, .array _ | .null, .object _
  | .bool _, .null | .bool _, .number _ | .bool _, .string _ | .bool _, .array _
  | .bool _, .object _ | .number _, .null | .number _, .bool _ | .number _, .string _
  | .number _, .array _ | .number _, .object _ | .string _, .null | .string _, .bool _
  | .string _, .number _ | .string _, .array _ | .string _, .object _ | .array _, .null
  | .array _, .bool _ | .array _, .number _ | .array _, .string _ | .array _, .object _
  | .object _, .null | .object _, .bool _ | .object _, .number _ | .object _, .string _
  | .object _, .array _ => isFalse (by simp)

private def decideItemsEq : (first second : List Json) → Decidable (first = second)
  | [], [] => isTrue rfl
  | [], _ :: _ | _ :: _, [] => isFalse (by simp)
  | first :: firsts, second :: seconds =>
      match decideEq first second, decideItemsEq firsts seconds with
      | isTrue equal, isTrue restEqual => isTrue (by rw [equal, restEqual])
      | isFalse different, _ => isFalse (by simp [different])
      | _, isFalse different => isFalse (by simp [different])

private def decideMembersEq : (first second : Members) → Decidable (first = second)
  | [], [] => isTrue rfl
  | [], _ :: _ | _ :: _, [] => isFalse (by simp)
  | (firstKey, first) :: firsts, (secondKey, second) :: seconds =>
      match decEq firstKey secondKey, decideEq first second, decideMembersEq firsts seconds with
      | isTrue keyEqual, isTrue equal, isTrue restEqual =>
          isTrue (by rw [keyEqual, equal, restEqual])
      | isFalse different, _, _ => isFalse (by simp [different])
      | _, isFalse different, _ => isFalse (by simp [different])
      | _, _, isFalse different => isFalse (by simp [different])

end

instance : DecidableEq Json := decideEq

namespace Members

/-- Give a key a value: the first member with that key is replaced, or else the member is inserted
before the first greater key. -/
def insert (key : String) (value : Json) : Members → Members
  | [] => [(key, value)]
  | (firstKey, first) :: rest =>
      if key = firstKey then (key, value) :: rest
      else if key < firstKey then (key, value) :: (firstKey, first) :: rest
      else (firstKey, first) :: insert key value rest

/-- The members in ascending order of their keys; of a repeated key the last value stays. -/
def ofList (members : Members) : Members :=
  members.foldl (fun ordered member => ordered.insert member.1 member.2) []

/-- Every key is below all later ones. -/
def Ascending (members : Members) : Prop :=
  members.Pairwise fun first second => first.1 < second.1

end Members

/-- An object from members in any order; of a repeated key the last value stays. -/
def ofMembers (members : Members) : Json := .object (Members.ofList members)

/-- An object from members some of which may be absent. -/
def ofOptionalMembers (members : List (String × Option Json)) : Json :=
  ofMembers (members.filterMap fun member => member.2.map (member.1, ·))

/-- A natural number as a value. -/
def ofNat (value : Nat) : Json := .number (.integer value)

mutual

/-- The same value with the members of every object in ascending order, the last value of a
repeated key staying. -/
def canonical : Json → Json
  | .array items => .array (canonicalItems items)
  | .object members => .object (Members.ofList (canonicalMembers members))
  | .null => .null
  | .bool value => .bool value
  | .number value => .number value
  | .string value => .string value

/-- Every item made canonical. -/
def canonicalItems : List Json → List Json
  | [] => []
  | item :: rest => item.canonical :: canonicalItems rest

/-- Every member's value made canonical, the members staying as they are. -/
def canonicalMembers : Members → Members
  | [] => []
  | (key, value) :: rest => (key, value.canonical) :: canonicalMembers rest

end

/-- Whether the value is an object. -/
def isObject : Json → Bool
  | .object _ => true
  | _ => false

/-- Whether the value is null. -/
def isNull : Json → Bool
  | .null => true
  | _ => false

/-- The value of a key, if the value is an object that has it. -/
def get? (key : String) : Json → Option Json
  | .object members => members.lookup key
  | _ => none

/-- The name of the kind of a value, as messages use it. -/
def kindName : Json → String
  | .null => "null"
  | .bool _ => "boolean"
  | .number _ => "number"
  | .string _ => "string"
  | .array _ => "array"
  | .object _ => "object"

/-- One step into a value: to the member with a key or to the item at an index. -/
inductive Step where
  | key (name : String)
  | index (position : Nat)
deriving DecidableEq, Repr

/-- The value one step further in. -/
def step? : Json → Step → Option Json
  | .object members, .key name => members.lookup name
  | .array items, .index position => items[position]?
  | _, _ => none

/-- The value at the end of a path. -/
def at? (value : Json) : List Step → Option Json
  | [] => some value
  | step :: path => (value.step? step).bind fun inner => inner.at? path

end Json

end MarkupLint

import MarkupLint.Json.Printer
/-!
# Decoding values into records

A record is written as an object, whose unknown members are ignored and whose known ones must not
be repeated, or as an array of its fields in their order, which may end early only before fields
that have a default.
-/

namespace MarkupLint.Json

/-- Why a value does not decode. -/
inductive DecodeError where
  | wrongKind (found : Json) (expected : String)
  | outOfRange (found : Json) (expected : String)
  | unknownVariant (found : String)
  | missingField (name : String)
  | repeatedField (name : String)
  | tooManyItems (count : Nat)
  | tooFewItems (count : Nat) (typeName : String) (wanted : Nat)
  | invalidUri (text : String)
deriving Repr

namespace DecodeError

/-- How a message names a value that it did not expect. -/
def describe : Json → String
  | .null => "null"
  | .bool value => "boolean `" ++ toString value ++ "`"
  | .number (.integer value) => "integer `" ++ toString value ++ "`"
  | .number (.real value) => "floating point `" ++ Number.realText value ++ "`"
  | .string value => "string " ++ String.ofList (quote value)
  | .array _ => "sequence"
  | .object _ => "map"

/-- The wording of a decoding error. -/
def message : DecodeError → String
  | .wrongKind found expected => "invalid type: " ++ describe found ++ ", expected " ++ expected
  | .outOfRange found expected => "invalid value: " ++ describe found ++ ", expected " ++ expected
  | .unknownVariant found => "unknown variant `" ++ found ++ "`"
  | .missingField name => "missing field `" ++ name ++ "`"
  | .repeatedField name => "duplicate field `" ++ name ++ "`"
  | .tooManyItems count =>
      "invalid length " ++ toString count ++ ", expected fewer elements in array"
  | .tooFewItems count typeName wanted =>
      "invalid length " ++ toString count ++ ", expected struct " ++ typeName ++ " with " ++
        toString wanted ++ " elements"
  | .invalidUri text => "invalid URL: " ++ text

end DecodeError

/-- The outcome of decoding a value. -/
abbrev Decoded (α : Type) := Except DecodeError α

/-- The known fields that a record states. -/
abbrev Fields := List (String × Json)

/-- The first key that occurs again later. -/
def firstRepeated? : List String → Option String
  | [] => none
  | name :: rest => if rest.contains name then some name else firstRepeated? rest

/-- The known fields of a record with the given field names. -/
def fields (typeName : String) (names : List String) : Json → Decoded Fields
  | .object members =>
      let known := members.filter fun member => names.contains member.1
      match firstRepeated? (known.map Prod.fst) with
      | some name => .error (.repeatedField name)
      | none => .ok known
  | .array items =>
      if names.length < items.length then .error (.tooManyItems items.length)
      else .ok (names.zip items)
  | other => .error (.wrongKind other ("struct " ++ typeName))

/-- The known fields of a record none of which has a default: an array must state them all. -/
def strictFields (typeName : String) (names : List String) : Json → Decoded Fields
  | .array items =>
      if items.length < names.length then
        .error (.tooFewItems items.length typeName names.length)
      else fields typeName names (.array items)
  | other => fields typeName names other

namespace Fields

/-- A field that must be stated. -/
def required (stated : Fields) (name : String) (decode : Json → Decoded α) : Decoded α :=
  match stated.lookup name with
  | some value => decode value
  | none => .error (.missingField name)

/-- A field that may be left out or be null. -/
def optional (stated : Fields) (name : String) (decode : Json → Decoded α) :
    Decoded (Option α) :=
  match stated.lookup name with
  | none | some .null => .ok none
  | some value => (decode value).map some

/-- A field that may be left out in favour of a default. -/
def defaulted (stated : Fields) (name : String) (decode : Json → Decoded α) (default : α) :
    Decoded α :=
  match stated.lookup name with
  | some value => decode value
  | none => .ok default

end Fields

/-- A string. -/
def decodeString : Json → Decoded String
  | .string value => .ok value
  | other => .error (.wrongKind other "a string")

/-- An unsigned integer of 32 bits. -/
def decodeUInt32 : Json → Decoded UInt32
  | .number (.integer value) =>
      match (Number.integer value).toUInt32? with
      | some word => .ok word
      | none => .error (.outOfRange (.number (.integer value)) "u32")
  | other => .error (.wrongKind other "u32")

/-- A signed integer of 32 bits. -/
def decodeInt32 : Json → Decoded Int
  | .number (.integer value) =>
      match (Number.integer value).toInt32? with
      | some integer => .ok integer
      | none => .error (.outOfRange (.number (.integer value)) "i32")
  | other => .error (.wrongKind other "i32")

/-- A list of values of one kind. -/
def decodeList (decode : Json → Decoded α) : Json → Decoded (List α)
  | .array items => items.mapM decode
  | other => .error (.wrongKind other "a sequence")

/-- Any value. -/
def decodeAny (value : Json) : Decoded Json := .ok value

end MarkupLint.Json

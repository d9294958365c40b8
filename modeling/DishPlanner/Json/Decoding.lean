import DishPlanner.Json.Value
import DishPlanner.OrderedMap
import DishPlanner.Text.Decimal
import DishPlanner.Text.Quoted

/-!
# Decoding JSON values

A decoder turns a value into a domain type or says what it found and what it
expected.  Records are described by `Fields`: a record is accepted as an object,
whose members are visited by ascending name, and as an array of its fields in
declaration order.  The first error wins, and missing fields are reported last.
-/

namespace DishPlanner

/-- What stood where something else was expected. -/
inductive Json.Found where
  | null
  | bool (value : Bool)
  | number (value : Json.Number)
  | string (text : String)
  | sequence
  | map
  /-- The bare name of an alternative. -/
  | bareAlternative
deriving DecidableEq, Repr

/-- What was expected. -/
inductive Json.Expected where
  | size
  | seed
  | character
  | sequence
  | nothing
  | textOrMap
  | singleKey
  | alternativeWithContent
  | record (name : String)
  /-- A record as an array of so many fields. -/
  | fields (name : String) (count : Nat)
  | fewerElements
deriving DecidableEq, Repr

/-- Why a value does not decode. -/
inductive Json.DecodeError where
  | wrongType (found : Json.Found) (expected : Json.Expected)
  | wrongValue (found : Json.Found) (expected : Json.Expected)
  | wrongLength (length : Nat) (expected : Json.Expected)
  | missingField (name : String)
  | unknownField (name : String) (known : List String)
  | unknownAlternative (name : String) (known : List String)
deriving DecidableEq, Repr

namespace Json

/-- How a found value is described. -/
def Found.describe : Found → String
  | .null => "null"
  | .bool value => s!"boolean `{value}`"
  | .number (.floating bits) => s!"floating point `{String.ofList (Text.Decimal.text bits)}`"
  | .number (.natural value) => s!"integer `{value}`"
  | .number (.negative value) => s!"integer `-{value}`"
  | .string text => s!"string {Text.quoted text}"
  | .sequence => "sequence"
  | .map => "map"
  | .bareAlternative => "unit variant"

/-- How an expectation is described. -/
def Expected.describe : Expected → String
  | .size => "usize"
  | .seed => "u64"
  | .character => "a character"
  | .sequence => "a sequence"
  | .nothing => "unit"
  | .textOrMap => "string or map"
  | .singleKey => "map with a single key"
  | .alternativeWithContent => "newtype variant"
  | .record name => s!"struct {name}"
  | .fields name count => s!"struct {name} with {count} elements"
  | .fewerElements => "fewer elements in array"

/-- A list of known names: two are joined by `or`, more follow `one of`. -/
def describeNames (names : List String) : String :=
  let marked := names.map fun name => s!"`{name}`"
  match marked with
  | [single] => single
  | [first, second] => s!"{first} or {second}"
  | _ => "one of " ++ String.intercalate ", " marked

/-- The sentence that reports a decoding error. -/
def DecodeError.message : DecodeError → String
  | .wrongType found expected => s!"invalid type: {found.describe}, expected {expected.describe}"
  | .wrongValue found expected => s!"invalid value: {found.describe}, expected {expected.describe}"
  | .wrongLength length expected => s!"invalid length {length}, expected {expected.describe}"
  | .missingField name => s!"missing field `{name}`"
  | .unknownField name known => s!"unknown field `{name}`, expected {describeNames known}"
  | .unknownAlternative name known => s!"unknown variant `{name}`, expected {describeNames known}"

/-- What a value is, for a report. -/
def found : Json → Found
  | .null => .null
  | .bool value => .bool value
  | .number value => .number value
  | .string text => .string text
  | .array _ => .sequence
  | .object _ => .map

/-- A decoder of one type. -/
abbrev Decoder (α : Type) := Json → Except DecodeError α

/-- A number that is not negative; negative whole numbers are refused as values, all else by
type. -/
def toNat (expected : Expected) : Decoder Nat
  | .number (.natural value) => .ok value
  | .number (.negative value) => .error (.wrongValue (.number (.negative value)) expected)
  | json => .error (.wrongType json.found expected)

/-- A size or position. -/
def toSize : Decoder Nat := toNat .size

/-- A seed that may be absent. -/
def toSeed? : Decoder (Option UInt64)
  | .null => .ok none
  | json => (toNat .seed json).map fun value => some (UInt64.ofNat value)

/-- A string of exactly one character. -/
def toChar : Decoder Char
  | .string text =>
      match text.toList with
      | [character] => .ok character
      | _ => .error (.wrongValue (.string text) .character)
  | json => .error (.wrongType json.found .character)

/-- An array of values of one type. -/
def toList {α : Type} (decode : Decoder α) : Decoder (List α)
  | .array items => items.mapM decode
  | json => .error (.wrongType json.found .sequence)

/-- The name of an alternative and its content, if any: a string names an alternative without
content, an object with one member names one with content. -/
def toAlternative : Decoder (String × Option Json)
  | .string name => .ok (name, none)
  | .object members =>
      match (OrderedMap.ofList members).entries with
      | [(name, content)] => .ok (name, some content)
      | _ => .error (.wrongValue .map .singleKey)
  | json => .error (.wrongType json.found .textOrMap)

/-- The content of an alternative that has none: it may be left out or be `null`. -/
def noContent : Option Json → Except DecodeError Unit
  | none => .ok ()
  | some .null => .ok ()
  | some json => .error (.wrongType json.found .nothing)

/-- The content of an alternative that has one. -/
def content {α : Type} (decode : Decoder α) : Option Json → Except DecodeError α
  | none => .error (.wrongType .bareAlternative .alternativeWithContent)
  | some json => decode json

/-- The fields of a record of type `α`. -/
structure Fields (α : Type) where
  /-- The names in declaration order. -/
  names : List String
  /-- Checks the value of one member; names that are no field of the record pass. -/
  check : String → Json → Except DecodeError Unit
  /-- Builds the record from a look-up of its fields. -/
  build : (String → Option Json) → Except DecodeError α

namespace Fields

variable {α β : Type}

/-- A record without fields. -/
def none (value : α) : Fields α := ⟨[], fun _ _ => .ok (), fun _ => .ok value⟩

/-- Adds a field behind the others. -/
def andThen (fields : Fields (α → β)) (name : String) (decode : Decoder α)
    (missing : Except DecodeError α) : Fields β where
  names := fields.names ++ [name]
  check member json :=
    if member = name then (decode json).map fun _ => () else fields.check member json
  build lookUp := do
    let make ← fields.build lookUp
    let value ← match lookUp name with
      | .some json => decode json
      | .none => missing
    return make value

/-- Adds a field that has to be present. -/
def required (fields : Fields (α → β)) (name : String) (decode : Decoder α) : Fields β :=
  fields.andThen name decode (.error (.missingField name))

/-- Adds a field that has a value of its own when it is missing. -/
def optional (fields : Fields (α → β)) (name : String) (decode : Decoder α) (absent : α) :
    Fields β :=
  fields.andThen name decode (.ok absent)

/-- Checks members one after the other. -/
def checkAll (fields : Fields α) (isStrict : Bool) :
    List (String × Json) → Except DecodeError Unit
  | [] => .ok ()
  | (name, json) :: members =>
      if isStrict && !fields.names.contains name then
        .error (.unknownField name fields.names)
      else
        match fields.check name json with
        | .error failure => .error failure
        | .ok () => fields.checkAll isStrict members

/-- Decodes a record.  `isStrict` refuses members that are no field, and `tooShort` describes the
array that has too few elements. -/
def decode (fields : Fields α) (name : String) (isStrict : Bool) (tooShort : Expected) :
    Decoder α
  | .object members => do
      let members := OrderedMap.ofList members
      fields.checkAll isStrict members.entries
      fields.build fun name => members.find? name
  | .array items => do
      let members := fields.names.zip items
      fields.checkAll isStrict members
      if items.length < fields.names.length then
        .error (.wrongLength items.length tooShort)
      else if fields.names.length < items.length then
        .error (.wrongLength items.length .fewerElements)
      else fields.build fun name => (members.find? fun entry => entry.1 = name).map Prod.snd
  | json => .error (.wrongType json.found (.record name))

/-- Decodes a record that ignores other members. -/
def toRecord (fields : Fields α) (name : String) : Decoder α :=
  fields.decode name false (.fields name fields.names.length)

end Fields

end Json

end DishPlanner

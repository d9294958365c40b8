/-!
# JSON values

Numbers keep the distinction that their text makes: a whole number inside the
64-bit ranges stays exact, every other number is a floating-point number, held
by its bits.  Objects keep their members as written, repeated names included.
-/

namespace DishPlanner

/-- A JSON number. -/
inductive Json.Number where
  /-- A whole number that is not negative. -/
  | natural (value : Nat)
  /-- The negative whole number `-value`. -/
  | negative (value : Nat)
  /-- A floating-point number, by its bits. -/
  | floating (bits : UInt64)
deriving DecidableEq, Repr

/-- A JSON value. -/
inductive Json where
  | null
  | bool (value : Bool)
  | number (value : Json.Number)
  | string (text : String)
  | array (items : List Json)
  | object (members : List (String × Json))

namespace Json

/-- The value of a number that is not negative. -/
def ofNat (value : Nat) : Json := .number (.natural value)

/-- The value of a character. -/
def ofChar (character : Char) : Json := .string (String.singleton character)

/-- The value of a list. -/
def ofList {α : Type} (encode : α → Json) (items : List α) : Json := .array (items.map encode)

/-- The value of an optional item; a missing one is `null`. -/
def ofOption {α : Type} (encode : α → Json) : Option α → Json
  | none => .null
  | some item => encode item

/-- The first member of a name. -/
def member? (json : Json) (name : String) : Option Json :=
  match json with
  | .object members => (members.find? fun entry => entry.1 = name).map Prod.snd
  | _ => none

end Json

end DishPlanner

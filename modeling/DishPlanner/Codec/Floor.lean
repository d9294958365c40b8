import DishPlanner.Diet
import DishPlanner.Floor.Plan
import DishPlanner.Json.Decoding

/-!
# Floor plans as JSON

Tiles and diets are alternatives, positions, spans, zones and plans are records.
A decoded plan is taken as it stands: its list of tiles may have any length.
-/

namespace DishPlanner

namespace Tile

/-- The names of the alternatives in declaration order. -/
def alternatives : List String :=
  ["Wall", "Door", "Counter", "Fridge", "KitchenFloor", "Occupant", "DishVegan", "DishNonVegan",
    "Other"]

/-- The value of a tile. -/
def toJson : Tile → Json
  | .wall => .string "Wall"
  | .door => .string "Door"
  | .counter => .string "Counter"
  | .fridge => .string "Fridge"
  | .kitchenFloor => .string "KitchenFloor"
  | .occupant => .string "Occupant"
  | .veganDish => .string "DishVegan"
  | .nonVeganDish => .string "DishNonVegan"
  | .other code => .object [("Other", .ofChar code)]

/-- Decodes a tile. -/
def ofJson : Json.Decoder Tile := fun json => do
  let (name, content) ← json.toAlternative
  let bare (tile : Tile) := (Json.noContent content).map fun _ => tile
  match name with
  | "Wall" => bare .wall
  | "Door" => bare .door
  | "Counter" => bare .counter
  | "Fridge" => bare .fridge
  | "KitchenFloor" => bare .kitchenFloor
  | "Occupant" => bare .occupant
  | "DishVegan" => bare .veganDish
  | "DishNonVegan" => bare .nonVeganDish
  | "Other" => (Json.content Json.toChar content).map .other
  | _ => .error (.unknownAlternative name alternatives)

end Tile

namespace Diet

def toJson (diet : Diet) : Json := .string diet.name

def ofJson : Json.Decoder Diet := fun json => do
  let (name, content) ← json.toAlternative
  match name with
  | "vegan" => (Json.noContent content).map fun _ => .vegan
  | "non-vegetarian" => (Json.noContent content).map fun _ => .nonVegetarian
  | _ => .error (.unknownAlternative name [vegan.name, nonVegetarian.name])

end Diet

namespace Position

def toJson (position : Position) : Json :=
  .object [("row", .ofNat position.row), ("col", .ofNat position.column)]

def fields : Json.Fields Position :=
  (Json.Fields.none Position.mk)
    |>.required "row" Json.toSize
    |>.required "col" Json.toSize

def ofJson : Json.Decoder Position := fields.toRecord "Coord"

end Position

namespace Span

def toJson (span : Span) : Json :=
  .object [("start", .ofNat span.start), ("end", .ofNat span.stop)]

def fields : Json.Fields Span :=
  (Json.Fields.none Span.mk)
    |>.required "start" Json.toSize
    |>.required "end" Json.toSize

/-- Decodes a span; a span has no other members. -/
def ofJson : Json.Decoder Span := fields.decode "Range" true (.record "Range")

end Span

namespace Zone

def toJson (zone : Zone) : Json :=
  .object [("rows", zone.rows.toJson), ("cols", zone.columns.toJson)]

def fields : Json.Fields Zone :=
  (Json.Fields.none Zone.mk)
    |>.required "rows" Span.ofJson
    |>.required "cols" Span.ofJson

def ofJson : Json.Decoder Zone := fields.toRecord "RoomRegion"

end Zone

namespace FloorPlan

def toJson (plan : FloorPlan) : Json :=
  .object [("rows", .ofNat plan.rows), ("cols", .ofNat plan.columns),
    ("cells", .ofList Tile.toJson plan.tiles.toList)]

/-- Decodes the tiles of a plan. -/
def tilesOfJson : Json.Decoder (Array Tile) := fun json =>
  (Json.toList Tile.ofJson json).map List.toArray

def fields : Json.Fields FloorPlan :=
  (Json.Fields.none FloorPlan.mk)
    |>.required "rows" Json.toSize
    |>.required "cols" Json.toSize
    |>.required "cells" tilesOfJson

/-- Decodes a plan; nothing ties its tiles to its size. -/
def ofJson : Json.Decoder FloorPlan := fields.toRecord "Grid"

end FloorPlan

end DishPlanner

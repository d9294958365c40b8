import DishPlanner.Codec.Floor
import DishPlanner.Dinner.Settings
import DishPlanner.Report.Tally

/-!
# Servings, settings and tallies as JSON
-/

namespace DishPlanner

namespace Serving

def toJson (serving : Serving) : Json :=
  .object [("row", .ofNat serving.position.row), ("col", .ofNat serving.position.column),
    ("dish", serving.dish.toJson)]

def fields : Json.Fields Serving :=
  (Json.Fields.none fun row column dish => Serving.mk ⟨row, column⟩ dish)
    |>.required "row" Json.toSize
    |>.required "col" Json.toSize
    |>.required "dish" Diet.ofJson

/-- Decodes a serving. -/
def ofJson : Json.Decoder Serving := fields.toRecord "DishPlacement"

end Serving

namespace Settings

def toJson (settings : Settings) : Json :=
  .object [("kitchen_key", .ofChar settings.kitchenKey),
    ("seed", .ofOption (fun seed => .ofNat seed.toNat) settings.seed)]

/-- The fields of settings; a missing seed is none. -/
def fields : Json.Fields Settings :=
  (Json.Fields.none Settings.mk)
    |>.required "kitchen_key" Json.toChar
    |>.optional "seed" Json.toSeed? none

def ofJson : Json.Decoder Settings := fields.toRecord "DishConfig"

end Settings

namespace Tally

/-- The value of a tally. -/
def toJson (tally : Tally) : Json :=
  .object [("total_people", .ofNat tally.people),
    ("vegan_people", .ofList .ofNat tally.vegans),
    ("non_vegetarian_people", .ofList .ofNat tally.nonVegetarians),
    ("vegan_people_count", .ofNat tally.veganCount),
    ("non_vegetarian_people_count", .ofNat tally.nonVegetarianCount),
    ("vegan_dishes_positions", .ofList Position.toJson tally.veganDishes),
    ("non_vegetarian_dishes_positions", .ofList Position.toJson tally.nonVegetarianDishes),
    ("vegan_dishes_count", .ofNat tally.veganDishCount),
    ("non_vegetarian_dishes_count", .ofNat tally.nonVegetarianDishCount)]

def fields : Json.Fields Tally :=
  (Json.Fields.none Tally.mk)
    |>.required "total_people" Json.toSize
    |>.required "vegan_people" (Json.toList Json.toSize)
    |>.required "non_vegetarian_people" (Json.toList Json.toSize)
    |>.required "vegan_people_count" Json.toSize
    |>.required "non_vegetarian_people_count" Json.toSize
    |>.required "vegan_dishes_positions" (Json.toList Position.ofJson)
    |>.required "non_vegetarian_dishes_positions" (Json.toList Position.ofJson)
    |>.required "vegan_dishes_count" Json.toSize
    |>.required "non_vegetarian_dishes_count" Json.toSize

def ofJson : Json.Decoder Tally := fields.toRecord "DishSummary"

end Tally

end DishPlanner

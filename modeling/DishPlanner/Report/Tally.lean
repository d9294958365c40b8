import DishPlanner.Kitchen.Service
import DishPlanner.Roll

/-!
# Tallies

A tally splits the persons of a roll and the placed dishes by diet and counts
both sides.
-/

namespace DishPlanner

/-- The persons and the places of the dishes, by diet. -/
structure Tally where
  people : Nat
  vegans : List Nat
  nonVegetarians : List Nat
  veganCount : Nat
  nonVegetarianCount : Nat
  veganDishes : List Position
  nonVegetarianDishes : List Position
  veganDishCount : Nat
  nonVegetarianDishCount : Nat
deriving DecidableEq, Repr

/-- Where the dishes of one kind stand, in the order of placement. -/
def dishPositions (servings : List Serving) (dish : Diet) : List Position :=
  (servings.filter fun serving => serving.dish = dish).map Serving.position

/-- The tally of a roll and of placed dishes. -/
def Tally.of (roll : Roll) (servings : List Serving) : Tally :=
  let vegans := roll.holders .vegan
  let nonVegetarians := roll.holders .nonVegetarian
  let veganDishes := dishPositions servings .vegan
  let nonVegetarianDishes := dishPositions servings .nonVegetarian
  { people := roll.size
    vegans
    nonVegetarians
    veganCount := vegans.length
    nonVegetarianCount := nonVegetarians.length
    veganDishes
    nonVegetarianDishes
    veganDishCount := veganDishes.length
    nonVegetarianDishCount := nonVegetarianDishes.length }

end DishPlanner

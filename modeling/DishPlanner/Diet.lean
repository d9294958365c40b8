import DishPlanner.Draw.Source
import DishPlanner.Floor.Tile

/-!
# Diets

Every person holds one of two diets, and every dish serves one of them.
-/

namespace DishPlanner

/-- A dietary preference, and the kind of dish that suits it. -/
inductive Diet where
  | vegan
  | nonVegetarian
deriving DecidableEq, Repr

namespace Diet

/-- The written name of a diet. -/
def name : Diet → String
  | .vegan => "vegan"
  | .nonVegetarian => "non-vegetarian"

/-- The tile of a dish of this kind. -/
def dishTile : Diet → Tile
  | .vegan => .veganDish
  | .nonVegetarian => .nonVeganDish

/-- The bytes that a diet takes in memory. -/
def bytes : Nat := 1

/-- The diet on a side of a coin. -/
def ofCoin (lower : Bool) : Diet := if lower then .vegan else .nonVegetarian

/-- Draws a diet; both are equally likely. -/
def draw {σ : Type} (source : Source σ) : Draw σ Diet := do
  return ofCoin (← source.coin)

end Diet

end DishPlanner

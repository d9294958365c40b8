/-!
# Tiles of a floor plan

A floor plan is drawn with one character per tile.  Eight characters are
reserved for the kinds of tile that the planner knows; every other character is
kept as it is.
-/

namespace DishPlanner

/-- What one place of a floor plan shows. -/
inductive Tile where
  | wall
  | door
  | counter
  | fridge
  | kitchenFloor
  | occupant
  | veganDish
  | nonVeganDish
  /-- Any other room or piece of furniture, named by its character. -/
  | other (code : Char)
deriving DecidableEq, Repr, Inhabited

namespace Tile

/-- The tile that a character stands for. -/
def ofCode : Char → Tile
  | 'W' => .wall
  | 'd' => .door
  | 'k' => .counter
  | 'F' => .fridge
  | 'K' => .kitchenFloor
  | 'P' => .occupant
  | 'V' => .veganDish
  | 'N' => .nonVeganDish
  | code => .other code

/-- The character that draws a tile. -/
def code : Tile → Char
  | .wall => 'W'
  | .door => 'd'
  | .counter => 'k'
  | .fridge => 'F'
  | .kitchenFloor => 'K'
  | .occupant => 'P'
  | .veganDish => 'V'
  | .nonVeganDish => 'N'
  | .other code => code

/-- The bytes that a tile takes in memory. -/
def bytes : Nat := 4

/-- The tile of plain floor, which belongs to no room. -/
def plainFloor : Tile := .other '.'

/-- Drawing the tile of a character gives the character back. -/
@[simp]
theorem code_ofCode (character : Char) : (ofCode character).code = character := by
  unfold ofCode
  split <;> rfl

end Tile

end DishPlanner

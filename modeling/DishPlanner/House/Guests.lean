import DishPlanner.Draw.Shuffle
import DishPlanner.House.Basic

/-!
# Guests

Guests stand on different walkable cells of the rooms.  The cells are brought
into reading order without repetition before they are shuffled, so how the rooms
overlap has no influence on where guests stand.
-/

namespace DishPlanner

/-- Kitchen floor and every tile that the planner does not know can be walked on. -/
def Tile.isWalkable : Tile → Bool
  | .kitchenFloor => true
  | .other _ => true
  | _ => false

namespace House

/-- The walkable cells of all rooms in reading order, each once. -/
def walkableCells (house : House) : Except Fault (List Position) := do
  let found ← house.rooms.values.mapM fun zone =>
    house.plan.select zone (fun _ => true) Tile.isWalkable
  return (Position.sort found.flatten).eraseReps

/-- Draws positions for a number of guests, or for as many as there are walkable cells. -/
def seatGuests {σ : Type} (source : Source σ) (house : House) (count : Nat) :
    Draw σ (Except Fault (List Position)) :=
  match house.walkableCells with
  | .error fault => pure (.error fault)
  | .ok cells => do
      let shuffled ← source.shuffle cells
      return .ok (shuffled.take count)

end House

/-- The plan with people shown on it. -/
def FloorPlan.showPeople (plan : FloorPlan) (people : List Position) : Except Fault FloorPlan :=
  people.foldlM (fun plan position => plan.write position .occupant) plan

end DishPlanner

import DishPlanner.Floor.Plan

/-!
# Free floor

A dish may stand on a cell of the kitchen that nobody occupies and that shows
exactly kitchen floor.
-/

namespace DishPlanner

/-- The cells of a kitchen that a dish may stand on, in reading order. -/
def freeFloor (plan : FloorPlan) (kitchen : Zone) (occupied : Position → Bool) :
    Except Fault (List Position) :=
  plan.select kitchen (fun position => !occupied position) fun tile => tile = .kitchenFloor

end DishPlanner

import DishPlanner.Dinner.Settings
import DishPlanner.Floor.Plan

/-!
# Houses

A house is a plan with its rooms.  The sample house has a kitchen and a living
room on top, a bedroom and a bathroom below; counters and a fridge line the top
of the kitchen.
-/

namespace DishPlanner

/-- A plan with its rooms. -/
structure House where
  plan : FloorPlan
  rooms : Rooms
deriving DecidableEq

namespace House

/-- Builds the sample house: walls throughout, then the floors of the rooms, then what stands in
the kitchen, and doors last. -/
def buildSample : Except Fault House := do
  let kitchen : Zone := ⟨⟨1, 5⟩, ⟨1, 7⟩⟩
  let livingRoom : Zone := ⟨⟨1, 5⟩, ⟨8, 15⟩⟩
  let bedroom : Zone := ⟨⟨6, 9⟩, ⟨1, 7⟩⟩
  let bathroom : Zone := ⟨⟨6, 9⟩, ⟨8, 11⟩⟩
  let floors : List (Zone × Tile) :=
    [ (kitchen, .kitchenFloor),
      (livingRoom, .other Rooms.livingRoomKey),
      (bedroom, .other Rooms.bedroomKey),
      (bathroom, .other Rooms.bathroomKey) ]
  let counters := (List.range' 1 5).map fun column => (⟨1, column⟩ : Position)
  let doors : List Position := [⟨3, 7⟩, ⟨5, 3⟩, ⟨7, 7⟩, ⟨9, 12⟩]
  let plan ← FloorPlan.blank 10 16 .wall
  -- What a fault leaves of the plan is given up with the house.
  let plan ← floors.foldlM
    (fun plan floor => (plan.fill floor.1 floor.2).mapError Prod.snd) plan
  let plan ← counters.foldlM (fun plan position => plan.write position .counter) plan
  let plan ← plan.write ⟨1, 6⟩ .fridge
  let plan ← doors.foldlM (fun plan position => plan.write position .door) plan
  return ⟨plan, .ofList
    [ (Rooms.kitchenKey, kitchen),
      (Rooms.livingRoomKey, livingRoom),
      (Rooms.bedroomKey, bedroom),
      (Rooms.bathroomKey, bathroom) ]⟩

end House

end DishPlanner

import DishPlanner.Inspection
import DishPlanner.Proofs.Floor.Scan

/-!
# Inspections of well-formed plans

The area of a room is computed only when the room lies inside the plan, so it
fits a word whenever the plan does.  An inspection of a well-formed plan
therefore ends, with the problems of the rooms and of the people one by one.
-/

namespace DishPlanner

variable {plan : FloorPlan}

/-- The problem of a room, if it has one. -/
def roomProblem (plan : FloorPlan) (key : Char) (zone : Zone) : Option Problem :=
  if plan.Contains zone then
    if zone.rows.size * zone.columns.size = 0 then some (.emptyRoom key) else none
  else some (.roomOutside key zone plan.rows plan.columns)

/-- The problem of the person with a number, counted from zero, if there is one. -/
def personProblem (plan : FloorPlan) (position : Position) (number : Nat) : Option Problem :=
  if (plan.tileAt position).isNone then some (.personOutside (number + 1) position) else none

/-- All problems of a house, in the order of an inspection. -/
def problems (plan : FloorPlan) (rooms : Rooms) (people : List Position) (settings : Settings) :
    List Problem :=
  inspectKitchen rooms settings ++
    (rooms.entries.map fun room => roomProblem plan room.1 room.2).reduceOption ++
    (people.zipIdx.map fun numbered => personProblem plan numbered.1 numbered.2).reduceOption

/-- A zone inside a plan is no larger than the plan. -/
theorem FloorPlan.Contains.area_le {zone : Zone} (hzone : plan.Contains zone) :
    zone.rows.size * zone.columns.size ≤ plan.rows * plan.columns :=
  Nat.mul_le_mul (Nat.le_trans (Nat.sub_le _ _) hzone.1) (Nat.le_trans (Nat.sub_le _ _) hzone.2)

namespace FloorPlan.WellFormed

theorem inspectRoom_eq (hplan : plan.WellFormed) (key : Char) (zone : Zone) :
    inspectRoom plan key zone = .ok (roomProblem plan key zone) := by
  rw [inspectRoom, roomProblem]
  by_cases hzone : plan.Contains zone
  · have harea := Nat.lt_of_le_of_lt hzone.area_le hplan.area_lt
    rw [if_pos hzone, if_pos hzone, Zone.area, checkedMul_of_lt harea]
    rfl
  · rw [if_neg hzone, if_neg hzone]
    rfl

theorem inspectRooms_eq (hplan : plan.WellFormed) (rooms : Rooms) :
    inspectRooms plan rooms =
      .ok (rooms.entries.map fun room => roomProblem plan room.1 room.2).reduceOption := by
  rw [inspectRooms, mapM_eq_ok fun room _ => hplan.inspectRoom_eq room.1 room.2]
  rfl

theorem inspectPeople_eq (hplan : plan.WellFormed) (people : List Position) :
    inspectPeople plan people =
      .ok (people.zipIdx.map fun numbered =>
        personProblem plan numbered.1 numbered.2).reduceOption := by
  have hperson : ∀ numbered ∈ people.zipIdx,
      (do
        let tile ← plan.read numbered.1
        return if tile.isNone then some (Problem.personOutside (numbered.2 + 1) numbered.1)
          else none) = Except.ok (personProblem plan numbered.1 numbered.2) := by
    intro numbered _
    rw [hplan.read_eq]
    rfl
  rw [inspectPeople, mapM_eq_ok hperson]
  rfl

/-- An inspection of a well-formed plan finds its problems without a fault. -/
theorem inspect_eq (hplan : plan.WellFormed) (rooms : Rooms) (people : List Position)
    (settings : Settings) :
    inspect plan rooms people settings = .ok (problems plan rooms people settings) := by
  rw [inspect, hplan.inspectRooms_eq, hplan.inspectPeople_eq]
  rfl

end FloorPlan.WellFormed

end DishPlanner

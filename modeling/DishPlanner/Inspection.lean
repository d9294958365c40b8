import DishPlanner.Dinner.Settings
import DishPlanner.Floor.Plan

/-!
# Inspection of a house

An inspection lists everything that is wrong with a plan, its rooms and its
people before a dinner is prepared.  It does not stop at the first problem.
-/

namespace DishPlanner

/-- A problem that an inspection finds. -/
inductive Problem where
  /-- No room has the kitchen's key. -/
  | noKitchen (key : Char)
  /-- A room reaches beyond the plan. -/
  | roomOutside (key : Char) (zone : Zone) (rows columns : Nat)
  /-- A room inside the plan has no cell. -/
  | emptyRoom (key : Char)
  /-- A person stands outside the plan; persons are numbered from 1. -/
  | personOutside (number : Nat) (position : Position)
deriving DecidableEq, Repr

namespace Problem

/-- The kind of a problem. -/
def category : Problem → String
  | .noKitchen _ => "kitchen"
  | .roomOutside .. => "region_bounds"
  | .emptyRoom _ => "region_bounds"
  | .personOutside .. => "occupant_bounds"

/-- An error, as opposed to a warning. -/
def isError : Problem → Bool
  | .emptyRoom _ => false
  | _ => true

/-- The sentence that reports a problem. -/
def message : Problem → String
  | .noKitchen key => s!"No room region for kitchen key '{key}'"
  | .roomOutside key zone rows columns =>
      s!"Room '{key}' spans rows {zone.rows.text} cols {zone.columns.text}, " ++
        s!"outside {rows}×{columns} grid"
  | .emptyRoom key => s!"Room '{key}' is empty"
  | .personOutside number position => s!"Person {number} at {position.text} is outside the grid"

end Problem

/-- The kitchen has to be one of the rooms. -/
def inspectKitchen (rooms : Rooms) (settings : Settings) : List Problem :=
  if rooms.contains settings.kitchenKey then [] else [.noKitchen settings.kitchenKey]

/-- The problem of one room, if it has one. -/
def inspectRoom (plan : FloorPlan) (key : Char) (zone : Zone) : Except Fault (Option Problem) :=
  if plan.Contains zone then do
    let area ← zone.area
    return if area = 0 then some (.emptyRoom key) else none
  else return some (.roomOutside key zone plan.rows plan.columns)

/-- Every room has to lie inside the plan and to have a cell. -/
def inspectRooms (plan : FloorPlan) (rooms : Rooms) : Except Fault (List Problem) := do
  let problems ← rooms.entries.mapM fun room => inspectRoom plan room.1 room.2
  return problems.reduceOption

/-- Every person has to stand inside the plan. -/
def inspectPeople (plan : FloorPlan) (people : List Position) : Except Fault (List Problem) := do
  let problems ← people.zipIdx.mapM fun numbered => do
    let tile ← plan.read numbered.1
    return if tile.isNone then some (Problem.personOutside (numbered.2 + 1) numbered.1) else none
  return problems.reduceOption

/-- All problems: the kitchen first, then the rooms by key, then the people in order. -/
def inspect (plan : FloorPlan) (rooms : Rooms) (people : List Position) (settings : Settings) :
    Except Fault (List Problem) := do
  let roomProblems ← inspectRooms plan rooms
  let peopleProblems ← inspectPeople plan people
  return inspectKitchen rooms settings ++ roomProblems ++ peopleProblems

end DishPlanner

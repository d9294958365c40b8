import DishPlanner.Dinner.Preparation
import DishPlanner.House.Guests
import DishPlanner.Report.Tally

/-!
# The sweep

The sweep prepares a dinner for every one of many seeds, with crowds that also
exceed the kitchen, and counts how often a rule of dinners is broken.
-/

namespace DishPlanner

/-- How often each rule was broken in a number of dinners. -/
structure Findings where
  dinners : Nat
  /-- Dinners whose roll does not list exactly the persons from 1 on. -/
  wrongPersons : Nat
  /-- Dinners for at least two with only one diet. -/
  missingDiets : Nat
  /-- Dishes that do not stand on free kitchen floor. -/
  wrongCells : Nat
  /-- Dishes on the cell of another. -/
  sharedCells : Nat
  /-- Dinners with fewer or more dishes than cells and persons allow. -/
  wrongCounts : Nat
  /-- Dinners whose plan differs elsewhere than at the dishes. -/
  strayChanges : Nat
  /-- Dinners with more dishes of a kind than persons of that diet. -/
  excessDishes : Nat
deriving DecidableEq, Repr

namespace Findings

/-- Nothing examined yet. -/
def none : Findings := ⟨0, 0, 0, 0, 0, 0, 0, 0⟩

/-- The findings of two groups of dinners. -/
def add (left right : Findings) : Findings where
  dinners := left.dinners + right.dinners
  wrongPersons := left.wrongPersons + right.wrongPersons
  missingDiets := left.missingDiets + right.missingDiets
  wrongCells := left.wrongCells + right.wrongCells
  sharedCells := left.sharedCells + right.sharedCells
  wrongCounts := left.wrongCounts + right.wrongCounts
  strayChanges := left.strayChanges + right.strayChanges
  excessDishes := left.excessDishes + right.excessDishes

end Findings

namespace House

/-- Whether a dish stands elsewhere than on free kitchen floor. -/
def isWrongCell (house : House) (kitchen : Zone) (people : List Position) (cell : Position) :
    Except Fault Bool :=
  if cell ∉ kitchen ∨ people.contains cell then return true
  else do
    let tile ← house.plan.read cell
    return tile ≠ some .kitchenFloor

/-- Examines one dinner. -/
def examine (house : House) (kitchen : Zone) (people : List Position) (dinner : Dinner) :
    Except Fault Findings := do
  let count := people.length
  let vegans := dinner.roll.count .vegan
  let others := dinner.roll.count .nonVegetarian
  let cells := dinner.servings.map Serving.position
  let wrong ← cells.mapM (house.isWrongCell kitchen people)
  let free ← freeFloor house.plan kitchen people.contains
  let changed ← house.plan.differences dinner.plan
  let tally := Tally.of dinner.roll dinner.servings
  return {
    dinners := 1
    wrongPersons := if dinner.roll.keys = List.range' 1 count then 0 else 1
    missingDiets := if 2 ≤ count ∧ (vegans = 0 ∨ others = 0) then 1 else 0
    wrongCells := wrong.count true
    sharedCells := cells.length - cells.eraseDups.length
    wrongCounts := if dinner.servings.length = min free.length count then 0 else 1
    strayChanges := if changed.all cells.contains && cells.all changed.contains then 0 else 1
    excessDishes :=
      if tally.veganCount < tally.veganDishCount ∨
          tally.nonVegetarianCount < tally.nonVegetarianDishCount then 1 else 0 }

end House

/-- The outcome of a check. -/
structure Check where
  name : String
  passed : Bool
  detail : String
deriving DecidableEq, Repr

namespace Check

/-- The check of a dinner that was refused. -/
def refused (seed : Nat) (error : DinnerError) : Check :=
  ⟨s!"sweep_seed_{seed}", false, error.message⟩

/-- The check of one rule over all dinners. -/
def ofCount (dinners : Nat) (name : String) (broken : Nat) (rule : String) : Check :=
  ⟨name, broken = 0, s!"{rule} ({broken} of {dinners} runs failed)"⟩

end Check

/-- One check for each rule. -/
def Findings.checks (findings : Findings) : List Check :=
  let check := Check.ofCount findings.dinners
  [ check "preference_keys" findings.wrongPersons "keys are 1..=N",
    check "both_labels" findings.missingDiets "both labels present for N >= 2",
    check "eligible_cells_only" findings.wrongCells "dishes on free kitchen floor",
    check "distinct_cells" findings.sharedCells "no cell holds two dishes",
    check "placement_count" findings.wrongCounts "placed = min(eligible, N)",
    check "grid_changes" findings.strayChanges "grid copy differs only at dishes",
    check "dish_counts" findings.excessDishes "dishes never exceed preference counts" ]

namespace House

/-- How many seeds a sweep covers. -/
def sweepSeeds : Nat := 200

/-- Prepares and examines a dinner with a crowd of a random size. -/
def serveCrowd {σ : Type} (source : Source σ) (house : House) (kitchen : Zone) (sizes : Nat) :
    Draw σ (Except Fault (Except DinnerError Findings)) := do
  let crowd ← source.below .long sizes
  match ← house.seatGuests source crowd with
  | .error fault => return .error fault
  | .ok people =>
      let attempt ← prepare source house.plan house.rooms people people.contains {}
      match attempt.result with
      | .error (.fault fault) => return .error fault
      | .error (.noKitchen key) => return .ok (.error (.noKitchen key))
      | .ok dinner => return (house.examine kitchen people dinner).map .ok

/-- Prepares and examines a dinner with a random crowd; crowds exceed the kitchen by up to five. -/
def sweepOnce {σ : Type} (source : Source σ) (house : House) (kitchen : Zone) (capacity : Nat) :
    Draw σ (Except Fault (Except DinnerError Findings)) :=
  match checkedAdd capacity 6 with
  | .error fault => pure (.error fault)
  | .ok sizes => house.serveCrowd source kitchen sizes

/-- Sweeps `remaining` seeds from `seed` on, behind what was found and refused before. -/
def sweepFrom {σ : Type} (source : Source σ) (start : Nat → σ) (house : House) (kitchen : Zone)
    (capacity : Nat) : (remaining seed : Nat) → Findings → List Check →
      Option (Except Fault (Findings × List Check))
  | 0, _, findings, refusals => some (.ok (findings, refusals.reverse))
  | remaining + 1, seed, findings, refusals =>
      match house.sweepOnce source kitchen capacity (start seed) with
      | none => none
      | some (.error fault, _) => some (.error fault)
      | some (.ok (.error error), _) =>
          sweepFrom source start house kitchen capacity remaining (seed + 1) findings
            (.refused seed error :: refusals)
      | some (.ok (.ok found), _) =>
          sweepFrom source start house kitchen capacity remaining (seed + 1) (findings.add found)
            refusals

/-- The checks of a sweep; `none` when a draw did not end.  `start` gives the random state of a
seed.  A house without a kitchen has no sweep. -/
def sweep {σ : Type} (source : Source σ) (start : Nat → σ) (house : House) :
    Option (Except DinnerError (List Check)) :=
  match house.rooms.find? Rooms.kitchenKey with
  | none => some (.error (.noKitchen Rooms.kitchenKey))
  | some kitchen =>
      match freeFloor house.plan kitchen fun _ => false with
      | .error fault => some (.error (.fault fault))
      | .ok free =>
          match house.sweepFrom source start kitchen free.length sweepSeeds 0 .none [] with
          | none => none
          | some (.error fault) => some (.error (.fault fault))
          | some (.ok (findings, refusals)) => some (.ok (refusals ++ findings.checks))

end House

end DishPlanner

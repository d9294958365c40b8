import DishPlanner.Dinner.Settings
import DishPlanner.Kitchen.FreeFloor
import DishPlanner.Kitchen.Service
import DishPlanner.Roll

/-!
# Preparing a dinner

A dinner gives every person a diet and a dish of that diet, and places the
dishes on the free floor of the kitchen.  It draws in a fixed order: diets by
person, then the cells, then the dishes.  A missing kitchen is found before
anything is drawn.
-/

namespace DishPlanner

/-- A prepared dinner. -/
structure Dinner where
  /-- The plan with the dishes written in. -/
  plan : FloorPlan
  /-- The diet of every person. -/
  roll : Roll
  /-- The placed dishes, in the order of pairing. -/
  servings : List Serving
  /-- The dishes without a cell. -/
  unplaced : List Diet
deriving DecidableEq

/-- Every person's dish was placed. -/
def Dinner.allPlaced (dinner : Dinner) : Bool := dinner.unplaced.isEmpty

/-- Why no dinner is prepared. -/
inductive DinnerError where
  /-- No room has the kitchen's key. -/
  | noKitchen (key : Char)
  /-- The plan stopped the preparation. -/
  | fault (cause : Fault)
deriving DecidableEq, Repr

/-- The sentence that reports a dinner that is not prepared. -/
def DinnerError.message : DinnerError → String
  | .noKitchen key => s!"Room layout has no region for key '{key}'"
  | .fault cause => cause.message

/-- The dinner of a round of service, with the notice that it is ready. -/
def Service.dinner (service : Attempt Fault Service) (roll : Roll) (people : Nat) :
    Attempt DinnerError Dinner :=
  match service with
  | ⟨notices, .error fault⟩ => ⟨notices, .error (.fault fault)⟩
  | ⟨notices, .ok served⟩ =>
      ⟨notices ++ [.ready served.servings.length people (roll.count .vegan)
          (roll.count .nonVegetarian)],
        .ok ⟨served.plan, roll, served.servings, served.unplaced⟩⟩

/-- Prepares a dinner for people who stand at the given positions. -/
def prepare {σ : Type} (source : Source σ) (plan : FloorPlan) (rooms : Rooms)
    (people : List Position) (occupied : Position → Bool) (settings : Settings) :
    Draw σ (Attempt DinnerError Dinner) :=
  match rooms.find? settings.kitchenKey with
  | none => pure ⟨[], .error (.noKitchen settings.kitchenKey)⟩
  | some kitchen => do
      let roll ← Roll.assign source people.length
      match freeFloor plan kitchen occupied with
      | .error fault => pure ⟨[], .error (.fault fault)⟩
      | .ok cells =>
          let service ← serve source plan cells (roll.count .vegan) (roll.count .nonVegetarian)
          return Service.dinner service roll people.length

end DishPlanner

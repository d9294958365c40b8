import DishPlanner.Draw.Shuffle
import DishPlanner.Floor.Plan
import DishPlanner.Notice

/-!
# Service: dishes on cells

The cells and the dishes are shuffled on their own and then paired in order.
Dishes beyond the last cell stay unplaced, which is no failure.  The two shuffles
are the only use of chance: `serveInOrder` is a function of what they leave.
-/

namespace DishPlanner

/-- A dish on a cell. -/
@[ext]
structure Serving where
  position : Position
  dish : Diet
deriving DecidableEq, Repr

/-- What a round of service leaves. -/
structure Service where
  /-- The plan with the dishes written in. -/
  plan : FloorPlan
  /-- The placed dishes, in the order of pairing. -/
  servings : List Serving
  /-- The dishes without a cell, in their shuffled order. -/
  unplaced : List Diet
deriving DecidableEq, Repr

namespace Service

/-- Every dish found a cell. -/
def isComplete (service : Service) : Bool := service.unplaced.isEmpty

/-- One notice for every dish without a cell. -/
def unplacedNotices (service : Service) : List Notice :=
  (service.unplaced.zipIdx (service.servings.length + 1)).map fun numbered =>
    .noCell numbered.2 numbered.1

end Service

/-- The dishes of a dinner, sorted: first the vegan ones, then the others. -/
def sortedDishes (vegans others : Nat) : List Diet :=
  List.replicate vegans .vegan ++ List.replicate others .nonVegetarian

/-- The dishes of a dinner in random order.  Memory is reserved for all of them before one is
drawn. -/
def drawDishes {σ : Type} (source : Source σ) (vegans others : Nat) :
    Draw σ (Except Fault (List Diet)) :=
  match checkedAdd vegans others >>= reserve Diet.bytes with
  | .error fault => pure (.error fault)
  | .ok () => do return .ok (← source.shuffle (sortedDishes vegans others))

/-- Writes servings into a plan, one after the other. -/
def FloorPlan.serve (plan : FloorPlan) (servings : List Serving) : Except Fault FloorPlan :=
  servings.foldlM (fun plan serving => plan.write serving.position serving.dish.dishTile) plan

/-- Pairs cells and dishes in order and writes the pairs into the plan. -/
def arrange (plan : FloorPlan) (cells : List Position) (dishes : List Diet) :
    Except Fault Service := do
  let servings := List.zipWith Serving.mk cells dishes
  let laid ← plan.serve servings
  return ⟨laid, servings, dishes.drop cells.length⟩

/-- The notice of a kitchen with fewer cells than dishes. -/
def shortageNotices (cells dishes : Nat) : List Notice :=
  if cells < dishes then [.shortage cells dishes] else []

/-- A round of service for cells and dishes in the order in which they are paired. -/
def serveInOrder (plan : FloorPlan) (cells : List Position) (dishes : List Diet) :
    Attempt Fault Service :=
  let shortage := shortageNotices cells.length dishes.length
  match arrange plan cells dishes with
  | .error fault => ⟨shortage, .error fault⟩
  | .ok service => ⟨shortage ++ service.unplacedNotices, .ok service⟩

/-- A round of service: a shortage is noticed first, then the cells are shuffled, then the dishes
are drawn. -/
def serve {σ : Type} (source : Source σ) (plan : FloorPlan) (cells : List Position)
    (vegans others : Nat) : Draw σ (Attempt Fault Service) :=
  match checkedAdd vegans others with
  | .error fault => pure ⟨[], .error fault⟩
  | .ok wanted => do
      let order ← source.shuffle cells
      match ← drawDishes source vegans others with
      | .error fault => return ⟨shortageNotices cells.length wanted, .error fault⟩
      | .ok dishes => return serveInOrder plan order dishes

end DishPlanner

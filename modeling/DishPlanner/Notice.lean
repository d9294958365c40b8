import DishPlanner.Diet

/-!
# Notices

What the planner reports while it works: each notice has a level and a sentence.
An `Attempt` is a computation's result with the notices given on the way to it,
also when it fails.
-/

namespace DishPlanner

/-- Something that the planner reports while it works. -/
inductive Notice where
  /-- There are fewer free cells than dishes. -/
  | shortage (cells dishes : Nat)
  /-- A dish found no cell; dishes are numbered from 1 in their shuffled order. -/
  | noCell (number : Nat) (dish : Diet)
  /-- A dinner is ready. -/
  | ready (placed people vegans others : Nat)
deriving DecidableEq, Repr

namespace Notice

/-- How much a notice matters. -/
inductive Level where
  | warning
  | debug
  | info
deriving DecidableEq, Repr

/-- The written name of a level. -/
def Level.name : Level → String
  | .warning => "WARN"
  | .debug => "DEBUG"
  | .info => "INFO"

/-- The level of a notice. -/
def level : Notice → Level
  | .shortage .. => .warning
  | .noCell .. => .debug
  | .ready .. => .info

/-- The sentence of a notice. -/
def message : Notice → String
  | .shortage cells dishes =>
      s!"Only {cells} valid positions found in kitchen for {dishes} dishes"
  | .noCell number dish => s!"Could not place dish {number} ({dish.name}): no free cell"
  | .ready placed people vegans others =>
      s!"Placed {placed}/{people} dishes ({vegans} vegan, {others} non-vegetarian people)"

end Notice

/-- A result with the notices given on the way to it. -/
structure Attempt (ε α : Type) where
  notices : List Notice
  result : Except ε α

end DishPlanner

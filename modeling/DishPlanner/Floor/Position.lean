/-!
# Positions on a floor plan

Positions are ordered as a page is read: by row, and within a row by column.
-/

namespace DishPlanner

/-- A place on a floor plan; rows and columns are counted from zero. -/
@[ext]
structure Position where
  row : Nat
  column : Nat
deriving DecidableEq, Hashable, Repr, Inhabited

namespace Position

/-- Reading order. -/
instance : LT Position where
  lt left right := left.row < right.row ∨ left.row = right.row ∧ left.column < right.column

instance : LE Position where
  le left right := left.row < right.row ∨ left.row = right.row ∧ left.column ≤ right.column

theorem lt_def (left right : Position) :
    left < right ↔ left.row < right.row ∨ left.row = right.row ∧ left.column < right.column :=
  Iff.rfl

theorem le_def (left right : Position) :
    left ≤ right ↔ left.row < right.row ∨ left.row = right.row ∧ left.column ≤ right.column :=
  Iff.rfl

instance : DecidableLT Position := fun left right => decidable_of_iff' _ (lt_def left right)

instance : DecidableLE Position := fun left right => decidable_of_iff' _ (le_def left right)

/-- A list of positions in reading order; repeated positions are kept. -/
def sort (positions : List Position) : List Position :=
  positions.mergeSort fun left right => decide (left ≤ right)

/-- The written form of a position. -/
def text (position : Position) : String := s!"({position.row}, {position.column})"

end Position

end DishPlanner

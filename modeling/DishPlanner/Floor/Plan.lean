import DishPlanner.Floor.Tile
import DishPlanner.Floor.Zone

/-!
# Floor plans

A floor plan is a height, a width and a row-major array of tiles.  Plans that
arrive from outside may hold an array of any length, so the array is not tied to
the size by the type: `FloorPlan.WellFormed` names the plans whose array is
exactly the rectangle, and every access states what happens on the others.

All scans follow `Zone.visit`: row-major, cut to the plan, and ended by the
first tile that cannot be reached.
-/

namespace DishPlanner

/-- A rectangle of tiles in row-major order. -/
@[ext]
structure FloorPlan where
  rows : Nat
  columns : Nat
  tiles : Array Tile
deriving DecidableEq, Repr

namespace FloorPlan

/-- The array of tiles is exactly the rectangle, and its size fits a word. -/
structure WellFormed (plan : FloorPlan) : Prop where
  size_tiles : plan.tiles.size = plan.rows * plan.columns
  area_lt : plan.rows * plan.columns < wordCount

/-- The number of tiles of a rectangle, with memory reserved for them. -/
def reserveTiles (rows columns : Nat) : Except Fault Nat := do
  let area ← checkedMul rows columns
  reserve Tile.bytes area
  return area

/-- A plan of one tile throughout. -/
def blank (rows columns : Nat) (tile : Tile) : Except Fault FloorPlan := do
  let area ← reserveTiles rows columns
  return ⟨rows, columns, Array.replicate area tile⟩

/-- The position lies inside the rectangle. -/
def Covers (plan : FloorPlan) (position : Position) : Prop :=
  position.row < plan.rows ∧ position.column < plan.columns

instance (plan : FloorPlan) (position : Position) : Decidable (plan.Covers position) :=
  inferInstanceAs (Decidable (_ ∧ _))

/-- The place of a covered position in the array; positions outside the plan have none. -/
def locate (plan : FloorPlan) (position : Position) :
    Except Fault (Option (Fin plan.tiles.size)) :=
  if plan.Covers position then do
    let offset ← checkedMul position.row plan.columns
    let index ← checkedAdd offset position.column
    if hindex : index < plan.tiles.size then return some ⟨index, hindex⟩
    else .error (.outOfBounds plan.tiles.size index)
  else return none

theorem locate_of_not_covers {plan : FloorPlan} {position : Position}
    (houtside : ¬ plan.Covers position) : plan.locate position = .ok none := if_neg houtside

/-- On a well-formed plan the row-major index of a covered position reaches into the array. -/
theorem WellFormed.index_lt {plan : FloorPlan} (hplan : plan.WellFormed) {position : Position}
    (hcovers : plan.Covers position) :
    position.row * plan.columns + position.column < plan.tiles.size := by
  have hrow : (position.row + 1) * plan.columns ≤ plan.rows * plan.columns :=
    Nat.mul_le_mul_right _ hcovers.1
  have hcolumn := hcovers.2
  rw [Nat.succ_mul] at hrow
  rw [hplan.size_tiles]
  omega

/-- On a well-formed plan every covered position is found. -/
theorem WellFormed.locate_of_covers {plan : FloorPlan} (hplan : plan.WellFormed)
    {position : Position} (hcovers : plan.Covers position) :
    plan.locate position =
      .ok (some ⟨position.row * plan.columns + position.column, hplan.index_lt hcovers⟩) := by
  have hindex := hplan.index_lt hcovers
  have harea := hplan.size_tiles ▸ hplan.area_lt
  rw [locate, if_pos hcovers, checkedMul_of_lt (by omega)]
  simp only [bind, Except.bind]
  rw [checkedAdd_of_lt (by omega)]
  simp [hindex, pure, Except.pure]

/-- The tile at a position, or `none` outside the plan. -/
def read (plan : FloorPlan) (position : Position) : Except Fault (Option Tile) :=
  (plan.locate position).map fun place => place.map fun index => plan.tiles[index]

/-- The plan with one place of its array replaced. -/
def replace (plan : FloorPlan) (index : Fin plan.tiles.size) (tile : Tile) : FloorPlan :=
  { plan with tiles := plan.tiles.set index tile index.isLt }

theorem WellFormed.replace {plan : FloorPlan} (hplan : plan.WellFormed)
    (index : Fin plan.tiles.size) (tile : Tile) : (plan.replace index tile).WellFormed where
  size_tiles := (Array.size_set index.isLt).trans hplan.size_tiles
  area_lt := hplan.area_lt

/-- The plan with a tile written at a position, and whether the position lies inside the plan.
Outside the plan nothing is written. -/
def overwrite (plan : FloorPlan) (position : Position) (tile : Tile) :
    Except Fault (FloorPlan × Bool) :=
  match plan.locate position with
  | .error fault => .error fault
  | .ok none => .ok (plan, false)
  | .ok (some index) => .ok (plan.replace index tile, true)

/-- The plan with a tile written at a position; outside the plan nothing is written. -/
def write (plan : FloorPlan) (position : Position) (tile : Tile) : Except Fault FloorPlan :=
  (plan.overwrite position tile).map Prod.fst

/-- Writes one tile over the part of a zone that lies inside the plan.  A fault comes with the
plan as the writes before it left it. -/
def fill (plan : FloorPlan) (zone : Zone) (tile : Tile) : Except (FloorPlan × Fault) FloorPlan :=
  (zone.clip plan.rows plan.columns).visit
    (fun plan position => (plan.write position tile).mapError fun fault => (plan, fault)) plan

/-- The positions of a zone that are admitted and show a wanted tile, in reading order.  A
position that is not admitted is never read. -/
def select (plan : FloorPlan) (zone : Zone) (admitted : Position → Bool) (wanted : Tile → Bool) :
    Except Fault (List Position) := do
  let found ← (zone.clip plan.rows plan.columns).visit
    (fun found position =>
      if admitted position then do
        let tile ← plan.read position
        return if tile.any wanted then found.push position else found
      else return found)
    (#[] : Array Position)
  return found.toList

/-- The positions inside both plans where the tiles differ, in reading order; the first plan is
read first. -/
def differences (left right : FloorPlan) : Except Fault (List Position) := do
  let shared : Zone := ⟨⟨0, min left.rows right.rows⟩, ⟨0, min left.columns right.columns⟩⟩
  let found ← shared.visit
    (fun found position => do
      let before ← left.read position
      let after ← right.read position
      return if before = after then found else found.push position)
    (#[] : Array Position)
  return found.toList

/-- The whole zone lies inside the plan, judged by the ends of its spans. -/
def Contains (plan : FloorPlan) (zone : Zone) : Prop :=
  zone.rows.stop ≤ plan.rows ∧ zone.columns.stop ≤ plan.columns

instance (plan : FloorPlan) (zone : Zone) : Decidable (plan.Contains zone) :=
  inferInstanceAs (Decidable (_ ∧ _))

end FloorPlan

end DishPlanner

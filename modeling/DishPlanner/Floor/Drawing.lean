import DishPlanner.Floor.Plan

/-!
# Drawings of floor plans

A drawing is a list of lines with one character per tile.  `FloorPlan.ofLines`
accepts the rectangles that find room in memory and names the first line that
breaks one; `FloorPlan.render` writes every row as a line.
-/

namespace DishPlanner

/-- Why a list of lines is no drawing. -/
inductive DrawingError where
  /-- There is no line, or the first one is empty. -/
  | empty
  /-- A line does not have as many characters as the first one. -/
  | raggedRow (row found expected : Nat)
  /-- The lines ask for more tiles than memory has room for, as far as the first one tells. -/
  | fault (cause : Fault)
deriving DecidableEq, Repr

/-- The sentence that reports a refused drawing. -/
def DrawingError.message : DrawingError → String
  | .empty => "Grid has no rows or no columns"
  | .raggedRow row found expected => s!"Grid row {row} has {found} cells, expected {expected}"
  | .fault cause => cause.message

namespace FloorPlan

/-- The plan of lines with a number of characters each; the first other line is refused. -/
def ofLinesOfWidth (columns : Nat) (lines : List String) : Except DrawingError FloorPlan :=
  match lines.zipIdx.find? fun numbered => numbered.1.length ≠ columns with
  | some (line, row) => .error (.raggedRow row line.length columns)
  | none =>
      .ok ⟨lines.length, columns, (lines.flatMap fun line => line.toList.map Tile.ofCode).toArray⟩

/-- The plan that a list of lines draws.  The first line decides for how many tiles memory is
reserved, before the other lines are looked at. -/
def ofLines (lines : List String) : Except DrawingError FloorPlan :=
  match lines with
  | [] => .error .empty
  | first :: _ =>
      let columns := first.length
      if columns = 0 then .error .empty
      else
        match reserveTiles lines.length columns with
        | .error fault => .error (.fault fault)
        | .ok _ => ofLinesOfWidth columns lines

/-- The lines of tiles that a drawing shows: the array cut into bands of the plan's width, at least
one tile each; the last band may be shorter. -/
def bands (plan : FloorPlan) : List (Array Tile) :=
  let width := max plan.columns 1
  (List.range ((plan.tiles.size + width - 1) / width)).map fun band =>
    plan.tiles.extract (band * width) ((band + 1) * width)

/-- The drawing of a plan: every band is a line, ended by a line feed.  Memory is reserved for a
byte for each character of as many lines as the plan has rows. -/
def render (plan : FloorPlan) : Except Fault String := do
  let lineLength ← checkedAdd plan.columns 1
  let length ← checkedMul plan.rows lineLength
  reserve 1 length
  return String.ofList (plan.bands.flatMap fun band => band.toList.map Tile.code ++ ['\n'])

end FloorPlan

end DishPlanner

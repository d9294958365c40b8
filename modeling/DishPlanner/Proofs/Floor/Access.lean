import DishPlanner.Floor.Plan

/-!
# Access to well-formed plans

On a well-formed plan no access can fail: reading is looking up `tileAt` and
writing is `put`, both total functions.  Distinct covered positions have
distinct places in the array, so a tile that is put at one position is seen at
this position only.
-/

namespace DishPlanner

namespace FloorPlan

variable {plan : FloorPlan} {position other : Position} {tile : Tile}

/-- The row-major place of a position. -/
def index (plan : FloorPlan) (position : Position) : Nat :=
  position.row * plan.columns + position.column

/-- The tile that a plan shows at a position. -/
def tileAt (plan : FloorPlan) (position : Position) : Option Tile :=
  if plan.Covers position then plan.tiles[plan.index position]? else none

/-- The plan with a tile put at a position; positions outside the plan take
none. -/
def put (plan : FloorPlan) (position : Position) (tile : Tile) : FloorPlan :=
  if plan.Covers position then
    { plan with tiles := plan.tiles.setIfInBounds (plan.index position) tile }
  else plan

theorem index_lt_of_row_lt (hcovers : plan.Covers position)
    (hrow : position.row < other.row) : plan.index position < plan.index other := by
  have hrows : (position.row + 1) * plan.columns ≤ other.row * plan.columns :=
    Nat.mul_le_mul_right _ hrow
  have hcolumn := hcovers.2
  rw [Nat.succ_mul] at hrows
  simp only [index]
  omega

/-- Covered positions with the same place in the array are the same. -/
theorem index_injective (hposition : plan.Covers position)
    (hother : plan.Covers other) (hindex : plan.index position = plan.index other) :
    position = other := by
  rcases Nat.lt_trichotomy position.row other.row with hrow | hrow | hrow
  · have := index_lt_of_row_lt hposition hrow
    omega
  · have hcolumn : position.column = other.column := by
      simp only [index, hrow] at hindex
      omega
    exact Position.ext hrow hcolumn
  · have := index_lt_of_row_lt hother hrow
    omega

theorem covers_of_tileAt_eq_some (htile : plan.tileAt position = some tile) :
    plan.Covers position := by
  by_cases hcovers : plan.Covers position
  · exact hcovers
  · simp [tileAt, hcovers] at htile

theorem WellFormed.exists_tileAt (hplan : plan.WellFormed) (hcovers : plan.Covers position) :
    ∃ tile, plan.tileAt position = some tile := by
  have hindex : plan.index position < plan.tiles.size := hplan.index_lt hcovers
  exact ⟨_, by rw [tileAt, if_pos hcovers, Array.getElem?_eq_getElem hindex]⟩

/-! ## Reading and writing -/

theorem WellFormed.read_eq (hplan : plan.WellFormed) (position : Position) :
    plan.read position = .ok (plan.tileAt position) := by
  by_cases hcovers : plan.Covers position
  · have hindex : plan.index position < plan.tiles.size := hplan.index_lt hcovers
    rw [read, hplan.locate_of_covers hcovers, tileAt, if_pos hcovers,
      Array.getElem?_eq_getElem hindex]
    rfl
  · rw [read, locate_of_not_covers hcovers, tileAt, if_neg hcovers]
    rfl

theorem WellFormed.overwrite_eq (hplan : plan.WellFormed) (position : Position)
    (tile : Tile) :
    plan.overwrite position tile =
      .ok (plan.put position tile, decide (plan.Covers position)) := by
  by_cases hcovers : plan.Covers position
  · have hindex : plan.index position < plan.tiles.size := hplan.index_lt hcovers
    rw [overwrite, hplan.locate_of_covers hcovers, put, if_pos hcovers,
      Array.setIfInBounds_def, dif_pos hindex, decide_eq_true hcovers]
    rfl
  · rw [overwrite, locate_of_not_covers hcovers, put, if_neg hcovers,
      decide_eq_false hcovers]

theorem WellFormed.write_eq (hplan : plan.WellFormed) (position : Position)
    (tile : Tile) : plan.write position tile = .ok (plan.put position tile) := by
  rw [write, hplan.overwrite_eq]
  rfl

/-! ## What putting a tile changes -/

@[simp]
theorem rows_put (plan : FloorPlan) (position : Position) (tile : Tile) :
    (plan.put position tile).rows = plan.rows := by
  rw [put]
  split <;> rfl

@[simp]
theorem columns_put (plan : FloorPlan) (position : Position) (tile : Tile) :
    (plan.put position tile).columns = plan.columns := by
  rw [put]
  split <;> rfl

@[simp]
theorem covers_put : (plan.put position tile).Covers other ↔ plan.Covers other := by
  simp only [Covers, rows_put, columns_put]

@[simp]
theorem index_put : (plan.put position tile).index other = plan.index other := by
  rw [index, index, columns_put]

theorem tiles_put (hcovers : plan.Covers position) :
    (plan.put position tile).tiles =
      plan.tiles.setIfInBounds (plan.index position) tile := by
  rw [put, if_pos hcovers]

theorem put_of_not_covers (houtside : ¬ plan.Covers position) :
    plan.put position tile = plan := if_neg houtside

theorem WellFormed.put (hplan : plan.WellFormed) (position : Position) (tile : Tile) :
    (plan.put position tile).WellFormed := by
  by_cases hcovers : plan.Covers position
  · refine ⟨?_, ?_⟩
    · rw [tiles_put hcovers, Array.size_setIfInBounds, rows_put, columns_put,
        hplan.size_tiles]
    · rw [rows_put, columns_put]
      exact hplan.area_lt
  · rwa [put_of_not_covers hcovers]

/-- A tile that is put at a covered position is seen there, and every other
position shows what it showed before. -/
theorem WellFormed.tileAt_put (hplan : plan.WellFormed) (position other : Position)
    (tile : Tile) :
    (plan.put position tile).tileAt other =
      if other = position ∧ plan.Covers position then some tile else plan.tileAt other := by
  by_cases hposition : plan.Covers position
  · have hplace : plan.index position < plan.tiles.size := hplan.index_lt hposition
    simp only [tileAt, covers_put, index_put, tiles_put hposition, hposition, and_true]
    by_cases hsame : other = position
    · rw [hsame, if_pos hposition, if_pos rfl, Array.getElem?_setIfInBounds_self_of_lt hplace]
    · rw [if_neg hsame]
      by_cases hother : plan.Covers other
      · have hplaces : plan.index position ≠ plan.index other := fun hequal =>
          hsame (index_injective hposition hother hequal).symm
        rw [if_pos hother, if_pos hother, Array.getElem?_setIfInBounds_ne hplaces]
      · rw [if_neg hother, if_neg hother]
  · rw [put_of_not_covers hposition, if_neg fun h => hposition h.2]

/-- Putting a tile where another is seen moves one place of the array from the
count of the old tile to the count of the new one. -/
theorem WellFormed.count_put (hplan : plan.WellFormed) {old : Tile}
    (hold : plan.tileAt position = some old) (tile counted : Tile) :
    (plan.put position tile).tiles.count counted + (if old = counted then 1 else 0) =
      plan.tiles.count counted + (if tile = counted then 1 else 0) := by
  have hcovers := covers_of_tileAt_eq_some hold
  have hplace : plan.index position < plan.tiles.size := hplan.index_lt hcovers
  have hstored : plan.tiles[plan.index position] = old := by
    rw [tileAt, if_pos hcovers, Array.getElem?_eq_getElem hplace] at hold
    exact Option.some.inj hold
  have hcounted := Array.boole_getElem_le_count (a := counted) hplace
  rw [tiles_put hcovers, Array.setIfInBounds_def, dif_pos hplace, Array.count_set, hstored]
  rw [hstored] at hcounted
  simp only [beq_iff_eq] at hcounted ⊢
  omega

end FloorPlan

end DishPlanner

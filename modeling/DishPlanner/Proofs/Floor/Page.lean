import DishPlanner.Proofs.Floor.Store

/-!
# Drawings line by line

A plan that is made blank and changed at will has a row of tiles for each line of its
drawing, with one exception: rows without tiles leave nothing to cut into lines, so a
plan without columns is drawn by the empty text.  Memory for the text is reserved
beforehand; a plan with a tile has room for it if it has room for its tiles, but rows
alone or columns alone can be too many.
-/

namespace DishPlanner

/-- The text of lines that are ended by a line feed each. -/
def feedLines (lines : List (List Char)) : String :=
  String.ofList (lines.flatMap (· ++ ['\n']))

theorem feedLines_eq_empty_iff {lines : List (List Char)} : feedLines lines = "" ↔ lines = [] := by
  rw [feedLines, ← String.toList_inj, String.toList_ofList]
  cases lines with
  | nil => exact iff_of_true rfl rfl
  | cons line lines => simp

namespace FloorPlan

variable {plan : FloorPlan} {rows : List (List Tile)} {lines : List (List Char)}

/-- The lines show the plan: one line for each row, and in it the character of the tile that
is read at each column. -/
structure LinedBy (plan : FloorPlan) (lines : List (List Char)) : Prop where
  length_eq : lines.length = plan.rows
  width_eq : ∀ line ∈ lines, line.length = plan.columns
  code_eq : ∀ position, plan.Covers position →
    ∃ tile, plan.read position = .ok (some tile) ∧
      (lines[position.row]?.bind fun codes => codes[position.column]?) = some tile.code

theorem HasRows.linedBy (hrows : plan.HasRows rows) (hplan : plan.WellFormed) :
    plan.LinedBy (rows.map (List.map Tile.code)) where
  length_eq := by rw [List.length_map, hrows.length_eq]
  width_eq := by
    intro line hline
    obtain ⟨row, hrow, rfl⟩ := List.mem_map.mp hline
    rw [List.length_map, hrows.width_eq row hrow]
  code_eq := by
    intro position hcovers
    obtain ⟨tile, htile⟩ := hplan.exists_tileAt hcovers
    refine ⟨tile, by rw [hplan.read_eq, htile], ?_⟩
    rw [hrows.tileAt_eq, Option.bind_eq_some_iff] at htile
    obtain ⟨row, hrow, hcolumn⟩ := htile
    rw [List.getElem?_map, hrow, Option.map_some, Option.bind_some, List.getElem?_map, hcolumn,
      Option.map_some]

/-- Without columns there is no tile, and so no line. -/
theorem HasRows.bands_eq_nil (hrows : plan.HasRows rows) (hcolumns : plan.columns = 0) :
    plan.bands = [] := by
  have hsize : plan.tiles.size = 0 := by rw [hrows.size_tiles, hcolumns, Nat.mul_zero]
  rw [bands, hsize, hcolumns]
  rfl

theorem render_of_wide (hwide : wordCount ≤ plan.columns + 1) :
    plan.render = .error .sumTooLarge := by
  rw [render, checkedAdd_of_le hwide]
  rfl

theorem render_of_large (hwide : plan.columns + 1 < wordCount)
    (hlarge : wordCount ≤ plan.rows * (plan.columns + 1)) :
    plan.render = .error .productTooLarge := by
  rw [render, checkedAdd_of_lt hwide]
  simp only [bind, Except.bind]
  rw [checkedMul_of_le hlarge]

theorem render_of_heavy (hwide : plan.columns + 1 < wordCount)
    (hproduct : plan.rows * (plan.columns + 1) < wordCount)
    (hheavy : memoryLimit ≤ plan.rows * (plan.columns + 1)) :
    plan.render = .error .capacityTooLarge := by
  have hbytes : memoryLimit ≤ 1 * (plan.rows * (plan.columns + 1)) := by rwa [Nat.one_mul]
  rw [render, checkedAdd_of_lt hwide]
  simp only [bind, Except.bind]
  rw [checkedMul_of_lt hproduct]
  simp only [reserve_of_le hbytes]

/-- A plan is drawn by its lines, and by nothing if it has no columns. -/
theorem HasRows.render_eq_ite (hrows : plan.HasRows rows) (hwide : plan.columns + 1 < wordCount)
    (hfits : plan.rows * (plan.columns + 1) < memoryLimit) :
    plan.render =
      .ok (if plan.columns = 0 then "" else feedLines (rows.map (List.map Tile.code))) := by
  by_cases hcolumns : plan.columns = 0
  · rw [render_of_fits hwide hfits, hrows.bands_eq_nil hcolumns, if_pos hcolumns]
    rfl
  · rw [hrows.render_eq (Nat.pos_of_ne_zero hcolumns) hfits hwide, if_neg hcolumns, feedLines,
      List.flatMap_map]

/-- A text that is too large for memory is not drawn, for one reason or another. -/
theorem exists_render_eq_error (hlarge : memoryLimit ≤ plan.rows * (plan.columns + 1)) :
    ∃ fault, plan.render = .error fault := by
  by_cases hwide : plan.columns + 1 < wordCount
  · by_cases hproduct : plan.rows * (plan.columns + 1) < wordCount
    · exact ⟨_, render_of_heavy hwide hproduct hlarge⟩
    · exact ⟨_, render_of_large hwide (Nat.le_of_not_lt hproduct)⟩
  · exact ⟨_, render_of_wide (Nat.le_of_not_lt hwide)⟩

/-- The lines of a plan are drawn exactly if a plan with rows has columns and there is room for
the text. -/
theorem HasRows.render_eq_lines_iff (hrows : plan.HasRows rows) :
    plan.render = .ok (feedLines (rows.map (List.map Tile.code))) ↔
      (plan.columns = 0 → plan.rows = 0) ∧ plan.columns + 1 < wordCount ∧
        plan.rows * (plan.columns + 1) < memoryLimit := by
  by_cases hwide : wordCount ≤ plan.columns + 1
  · rw [render_of_wide hwide]
    exact iff_of_false (by simp) fun h => Nat.not_lt.mpr hwide h.2.1
  have hwide := Nat.lt_of_not_le hwide
  by_cases hlarge : memoryLimit ≤ plan.rows * (plan.columns + 1)
  · obtain ⟨fault, hfault⟩ := exists_render_eq_error hlarge
    rw [hfault]
    exact iff_of_false (by simp) fun h => Nat.not_lt.mpr hlarge h.2.2
  have hfits := Nat.lt_of_not_le hlarge
  rw [hrows.render_eq_ite hwide hfits, and_iff_left ⟨hwide, hfits⟩, Except.ok.injEq]
  by_cases hcolumns : plan.columns = 0
  · rw [if_pos hcolumns, eq_comm, feedLines_eq_empty_iff, forall_prop_of_true hcolumns,
      ← hrows.length_eq, List.map_eq_nil_iff, List.length_eq_zero_iff]
  · rw [if_neg hcolumns]
    exact iff_of_true rfl fun hnone => absurd hnone hcolumns

/-- How a plan is drawn: by its lines exactly if it has columns or no rows and there is room for
the text.  Otherwise it has rows without columns and is drawn by nothing, or the text is too
large, which does not happen to a plan with a tile whose tiles memory can hold. -/
structure DrawnAs (plan : FloorPlan) (lines : List (List Char)) : Prop where
  eq_lines_iff : plan.render = .ok (feedLines lines) ↔
    (plan.columns = 0 → plan.rows = 0) ∧ plan.columns + 1 < wordCount ∧
      plan.rows * (plan.columns + 1) < memoryLimit
  eq_empty : plan.columns = 0 → plan.rows < memoryLimit → plan.render = .ok ""
  eq_sumTooLarge : wordCount ≤ plan.columns + 1 → plan.render = .error .sumTooLarge
  eq_productTooLarge : plan.columns + 1 < wordCount →
    wordCount ≤ plan.rows * (plan.columns + 1) → plan.render = .error .productTooLarge
  eq_capacityTooLarge : plan.columns + 1 < wordCount →
    plan.rows * (plan.columns + 1) < wordCount →
    memoryLimit ≤ plan.rows * (plan.columns + 1) → plan.render = .error .capacityTooLarge
  eq_lines_of_storable : plan.Storable → 0 < plan.rows → 0 < plan.columns →
    plan.render = .ok (feedLines lines)

theorem HasRows.drawnAs (hrows : plan.HasRows rows) :
    plan.DrawnAs (rows.map (List.map Tile.code)) where
  eq_lines_iff := hrows.render_eq_lines_iff
  eq_empty hcolumns hfits := by
    rw [hrows.render_eq_ite, if_pos hcolumns]
    · rw [hcolumns]
      decide
    · rwa [hcolumns, Nat.zero_add, Nat.mul_one]
  eq_sumTooLarge := render_of_wide
  eq_productTooLarge := render_of_large
  eq_capacityTooLarge := render_of_heavy
  eq_lines_of_storable hplan hpositive hcolumns := by
    rw [hrows.render_of_storable hplan hpositive hcolumns, feedLines, List.flatMap_map]

/-- A blank plan whose tiles memory has room for is changed at will and then drawn by one line
for each of its rows, unless it has rows without columns or there is no room for the text.  For
more tiles than that no plan is made. -/
theorem render_of_changes {rows columns : Nat} (hfits : rows * columns < wordCount) (tile : Tile)
    (changes : List Change) :
    (memoryLimit ≤ Tile.bytes * (rows * columns) →
      FloorPlan.blank rows columns tile = .error .capacityTooLarge) ∧
    (Tile.bytes * (rows * columns) < memoryLimit →
      ∃ first last answers lines, FloorPlan.blank rows columns tile = .ok first ∧
        first.carryOut changes = .ok (last, answers) ∧ last.rows = rows ∧
        last.columns = columns ∧ last.LinedBy lines ∧ last.DrawnAs lines) := by
  constructor
  · intro hlarge
    rw [blank_of_le hlarge, areaFault, if_neg (Nat.not_le.mpr hfits)]
  · intro hroom
    have hblank : FloorPlan.blank rows columns tile =
        .ok ⟨rows, columns, Array.replicate (rows * columns) tile⟩ :=
      blank_eq_ok_iff.mpr ⟨hroom, rfl⟩
    have hplan := (MadeWith.blank hblank).wellFormed
    obtain ⟨last, hlast, hkeeps⟩ := hplan.exists_carryOut changes
    obtain ⟨tileRows, hrows⟩ := hkeeps.wellFormed.exists_hasRows
    exact ⟨_, last, _, _, hblank, hlast, hkeeps.rows_eq, hkeeps.columns_eq,
      hrows.linedBy hkeeps.wellFormed, hrows.drawnAs⟩

/-- Two rows of three tiles, all of them wall. -/
def bareCloset : FloorPlan := ⟨2, 3, Array.replicate 6 .wall⟩

/-- Changes of the closet, the last of which lies outside. -/
def closetChanges : List Change :=
  [.fill ⟨⟨0, 9⟩, ⟨1, 9⟩⟩ .kitchenFloor, .overwrite ⟨1, 1⟩ .veganDish, .overwrite ⟨1, 3⟩ .door]

/-- The closet after the changes. -/
def closet : FloorPlan :=
  ⟨2, 3, #[.wall, .kitchenFloor, .kitchenFloor, .wall, .veganDish, .kitchenFloor]⟩

theorem render_of_changes_closet :
    2 * 3 < wordCount ∧ Tile.bytes * (2 * 3) < memoryLimit ∧
      FloorPlan.blank 2 3 .wall = .ok bareCloset ∧
      bareCloset.carryOut closetChanges = .ok (closet, [true, false]) ∧
      ∃ lines, closet.LinedBy lines ∧ closet.render = .ok (feedLines lines) ∧
        feedLines lines = "WKK\nWVK\n" := by
  have hfits : 2 * 3 < wordCount := by decide
  have hroom : Tile.bytes * (2 * 3) < memoryLimit := by decide
  have hblank : FloorPlan.blank 2 3 .wall = .ok bareCloset := rfl
  have hchanges : bareCloset.carryOut closetChanges = .ok (closet, [true, false]) := rfl
  obtain ⟨first, last, answers, lines, hfirst, hlast, -, -, hlines, hdrawn⟩ :=
    (render_of_changes hfits .wall closetChanges).2 hroom
  obtain rfl := Except.ok.inj (hblank.symm.trans hfirst)
  obtain ⟨rfl, -⟩ := Prod.mk.inj (Except.ok.inj (hchanges.symm.trans hlast))
  have hrender : closet.render = .ok (feedLines lines) := hdrawn.eq_lines_iff.mpr (by decide)
  have htext : closet.render = .ok "WKK\nWVK\n" := rfl
  exact ⟨hfits, hroom, hblank, hchanges, lines, hlines, hrender,
    Except.ok.inj (hrender.symm.trans htext)⟩

/-- Two rows without columns. -/
def bareRows : FloorPlan := ⟨2, 0, #[]⟩

/-- No row, but as many columns as a word can count. -/
def threshold : FloorPlan := ⟨0, wordCount - 1, #[]⟩

/-- More rows than a text can have lines. -/
def endlessRows : FloorPlan := ⟨memoryLimit, 0, #[]⟩

/-- Rows without columns are not drawn as lines, and rows or columns alone can be too many for a
text. -/
theorem not_drawn_by_lines :
    FloorPlan.blank 2 0 .wall = .ok bareRows ∧ bareRows.carryOut [] = .ok (bareRows, []) ∧
      bareRows.render = .ok "" ∧
      (¬ ∃ lines, bareRows.LinedBy lines ∧ bareRows.render = .ok (feedLines lines)) ∧
      FloorPlan.blank 0 (wordCount - 1) .wall = .ok threshold ∧
      threshold.render = .error .sumTooLarge ∧
      FloorPlan.blank memoryLimit 0 .wall = .ok endlessRows ∧
      endlessRows.render = .error .capacityTooLarge := by
  have hrender : bareRows.render = .ok "" := rfl
  refine ⟨rfl, rfl, hrender, ?_, rfl, rfl, rfl, rfl⟩
  rintro ⟨lines, hlines, hdrawn⟩
  have hempty : feedLines lines = "" := (Except.ok.inj (hrender.symm.trans hdrawn)).symm
  have hlength := hlines.length_eq
  rw [feedLines_eq_empty_iff.mp hempty] at hlength
  exact absurd hlength (by decide)

end FloorPlan

end DishPlanner

import DishPlanner.Proofs.Floor.Drawing
import DishPlanner.Proofs.Floor.Patch
import DishPlanner.Proofs.Floor.Walk

/-!
# Maps

A map is a drawing that is looked at position by position: the line is its row,
the character in the line its column.  On the map of a plan without line feeds
every position shows the character of its tile, so a character stands on the map
as often as there are positions that show it.
-/

namespace DishPlanner

/-- The character that a map shows at a position. -/
def codeAt (map : String) (position : Position) : Option Char :=
  (FloorPlan.cutLines map)[position.row]?.bind fun line => line.toList[position.column]?

namespace FloorPlan

variable {plan : FloorPlan} {map : String} {rows : List (List Tile)}

/-- The map has a line for each row of the plan and shows the characters of its tiles. -/
structure MappedBy (plan : FloorPlan) (map : String) : Prop where
  lines_eq : (cutLines map).length = plan.rows
  width_eq : ∀ line ∈ cutLines map, line.length = plan.columns
  codeAt_eq : ∀ position, codeAt map position = (plan.tileAt position).map Tile.code
  count_eq : ∀ code, code ≠ '\n' →
    map.toList.count code = plan.positions.countP fun position => codeAt map position = some code

/-- A tile is in the array exactly if some position shows it. -/
theorem WellFormed.mem_tiles_iff (hplan : plan.WellFormed) {tile : Tile} :
    tile ∈ plan.tiles ↔ ∃ position, plan.tileAt position = some tile := by
  constructor
  · intro htile
    obtain ⟨place, hplace, hstored⟩ := Array.mem_iff_getElem.mp htile
    obtain ⟨position, hcovers, hindex⟩ := hplan.exists_index_eq hplace
    exact ⟨position, by
      rw [tileAt, if_pos hcovers, hindex, Array.getElem?_eq_getElem hplace, hstored]⟩
  · rintro ⟨position, htile⟩
    rw [tileAt, if_pos (covers_of_tileAt_eq_some htile)] at htile
    exact Array.mem_of_getElem? htile

theorem map_getElem?_range {α : Type} (items : List α) :
    (List.range items.length).map (fun place => items[place]?) = items.map some := by
  apply List.ext_getElem?
  intro place
  by_cases hplace : place < items.length
  · simp [hplace]
  · simp [hplace]

namespace HasRows

/-- Going through a plan position by position is going through its rows. -/
theorem map_tileAt_positions (hrows : plan.HasRows rows) :
    plan.positions.map plan.tileAt = rows.flatten.map some := by
  have hrow : ∀ row ∈ rows, (List.range plan.columns).map (fun column => row[column]?) =
      row.map some := by
    intro row hmem
    rw [← hrows.width_eq row hmem, map_getElem?_range]
  calc plan.positions.map plan.tileAt
    _ = ((List.range plan.rows).map fun place => rows[place]?).flatMap fun row =>
          (List.range plan.columns).map fun column => row.bind fun row => row[column]? := by
      simp only [positions, List.map_flatMap, List.flatMap_map, List.map_map, Function.comp_def,
        hrows.tileAt_eq]
    _ = rows.flatMap fun row => (List.range plan.columns).map fun column => row[column]? := by
      rw [← hrows.length_eq, map_getElem?_range, List.flatMap_map]
      rfl
    _ = rows.flatMap fun row => row.map some := List.flatMap_congr hrow
    _ = rows.flatten.map some := by rw [List.map_flatten, List.flatMap_def]

end HasRows

/-- Line feeds apart, a drawing has a character for each tile. -/
theorem count_drawing {code : Char} (hcode : code ≠ '\n') (rows : List (List Tile)) :
    (rows.flatMap fun row => row.map Tile.code ++ ['\n']).count code =
      rows.flatten.countP fun tile => tile.code = code := by
  have hfeed : ['\n'].count code = 0 := List.count_eq_zero.mpr (by simpa using hcode)
  induction rows with
  | nil => rfl
  | cons row rows ih =>
      rw [List.flatMap_cons, List.count_append, List.count_append, hfeed, ih, List.flatten_cons,
        List.countP_append, List.count, List.countP_map, Nat.add_zero]
      rfl

namespace HasRows

/-- The drawing of a plan is a map of it, unless a tile is drawn as a line feed. -/
theorem mappedBy (hrows : plan.HasRows rows) (hcodes : ∀ tile ∈ plan.tiles, tile.code ≠ '\n') :
    plan.MappedBy
      (String.ofList (rows.flatMap fun row => row.map Tile.code ++ ['\n'])) := by
  have hcut := hrows.cutLines_drawing hcodes
  have hcodeAt : ∀ position, codeAt
      (String.ofList (rows.flatMap fun row => row.map Tile.code ++ ['\n'])) position =
        (plan.tileAt position).map Tile.code := by
    intro position
    rw [codeAt, hcut, hrows.tileAt_eq, List.getElem?_map]
    cases rows[position.row]? with
    | none => rfl
    | some row => simp
  exact {
    lines_eq := by rw [hcut, List.length_map, hrows.length_eq]
    width_eq := by
      intro line hline
      rw [hcut] at hline
      obtain ⟨row, hrow, rfl⟩ := List.mem_map.mp hline
      rw [String.length_ofList, List.length_map, hrows.width_eq row hrow]
    codeAt_eq := hcodeAt
    count_eq := by
      intro code hcode
      calc _ = rows.flatten.countP fun tile => tile.code = code := by
            rw [String.toList_ofList, count_drawing hcode]
        _ = (plan.positions.map plan.tileAt).countP fun tile =>
              tile.map Tile.code = some code := by
            rw [hrows.map_tileAt_positions, List.countP_map]
            simp [Function.comp_def]
        _ = _ := by
            rw [List.countP_map]
            simp only [Function.comp_def, hcodeAt] }

end HasRows

/-- A plan is drawn as a map of it if no tile is drawn as a line feed and memory has
room for the drawing. -/
theorem WellFormed.exists_map (hplan : plan.WellFormed) (hcolumns : 0 < plan.columns)
    (hwide : plan.columns + 1 < wordCount)
    (hfits : plan.rows * (plan.columns + 1) < memoryLimit)
    (hcodes : ∀ tile ∈ plan.tiles, tile.code ≠ '\n') :
    ∃ map, plan.render = .ok map ∧ plan.MappedBy map := by
  obtain ⟨rows, hrows⟩ := hplan.exists_hasRows
  exact ⟨_, hrows.render_eq hcolumns hfits hwide, hrows.mappedBy hcodes⟩

namespace MappedBy

theorem covers_of_codeAt (hmap : plan.MappedBy map) {position : Position} {code : Char}
    (hcode : codeAt map position = some code) : plan.Covers position := by
  rw [hmap.codeAt_eq, Option.map_eq_some_iff] at hcode
  obtain ⟨tile, htile, -⟩ := hcode
  exact covers_of_tileAt_eq_some htile

/-- A character stands on a map as often as there are positions that it marks. -/
theorem count_eq_length (hmap : plan.MappedBy map) {code : Char} (hcode : code ≠ '\n')
    {marked : List Position} (hnodup : marked.Nodup)
    (hmarked : ∀ position, codeAt map position = some code ↔ position ∈ marked) :
    map.toList.count code = marked.length := by
  rw [hmap.count_eq code hcode, List.countP_eq_length_filter]
  apply List.Perm.length_eq
  apply (List.perm_ext_iff_of_nodup (plan.pairwise_lt_positions.nodup.filter _) hnodup).mpr
  intro position
  rw [List.mem_filter, mem_positions, decide_eq_true_eq, hmarked]
  exact and_iff_right_of_imp fun hmember => hmap.covers_of_codeAt ((hmarked position).mpr hmember)

end MappedBy

end FloorPlan

end DishPlanner

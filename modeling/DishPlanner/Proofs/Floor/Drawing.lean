import DishPlanner.Proofs.Floor.Rows

/-!
# Drawings and plans

`FloorPlan.ofLines` and `FloorPlan.render` are inverse to each other as far as
characters allow: every drawing that is accepted comes back line by line, and
every plan can be read off its drawing, unless a tile is drawn as a line feed or
by the character of another tile.
-/

namespace DishPlanner

namespace Tile

/-- The characters that stand for a kind of tile of their own. -/
def reservedCodes : List Char := ['W', 'd', 'k', 'F', 'K', 'P', 'V', 'N']

theorem ofCode_of_not_mem {code : Char} (hcode : code ∉ reservedCodes) :
    ofCode code = .other code := by
  unfold ofCode
  split
  case h_9 => rfl
  all_goals exact absurd (by decide) hcode

/-- A tile that keeps no reserved character is the tile of the character that
draws it. -/
theorem ofCode_code {tile : Tile} (htile : ∀ code ∈ reservedCodes, tile ≠ .other code) :
    ofCode tile.code = tile := by
  cases tile with
  | other code => exact ofCode_of_not_mem fun hcode => htile code hcode rfl
  | _ => rfl

end Tile

namespace FloorPlan

variable {plan : FloorPlan} {lines : List String}

/-- The lines draw the plan, one character for each tile. -/
structure DrawnBy (plan : FloorPlan) (lines : List String) : Prop where
  rows_eq : plan.rows = lines.length
  rows_pos : 0 < plan.rows
  columns_pos : 0 < plan.columns
  length_eq : ∀ line ∈ lines, line.length = plan.columns
  tiles_eq : plan.tiles = (lines.flatMap fun line => line.toList.map Tile.ofCode).toArray

/-- The number of characters of the line on top. -/
def topWidth (lines : List String) : Nat := (lines.head?.map String.length).getD 0

/-- Memory has room for as many tiles as the line on top has, for every line. -/
def HasRoom (lines : List String) : Prop :=
  Tile.bytes * (lines.length * topWidth lines) < memoryLimit

/-- The search for a ragged line fails if all lines have one length. -/
theorem find?_ragged_eq_none_iff {columns : Nat} :
    (lines.zipIdx.find? fun numbered => decide (numbered.1.length ≠ columns)) = none ↔
      ∀ line ∈ lines, line.length = columns := by
  rw [List.find?_eq_none]
  constructor
  · intro hright line hline
    rw [← List.zipIdx_map_fst 0 lines] at hline
    obtain ⟨numbered, hnumbered, rfl⟩ := List.mem_map.mp hline
    simpa using hright numbered hnumbered
  · intro hlength numbered hnumbered
    simp [hlength _ (List.fst_mem_of_mem_zipIdx hnumbered)]

namespace DrawnBy

theorem hasRows (hdrawn : plan.DrawnBy lines) :
    plan.HasRows (lines.map fun line => line.toList.map Tile.ofCode) where
  length_eq := by rw [List.length_map, hdrawn.rows_eq]
  width_eq := by
    intro row hrow
    obtain ⟨line, hline, rfl⟩ := List.mem_map.mp hrow
    rw [List.length_map, String.length_toList, hdrawn.length_eq line hline]
  flatten_eq := by rw [hdrawn.tiles_eq, List.flatMap_def]

/-- The line on top tells for how many tiles a drawn plan needs memory. -/
theorem storable_iff (hdrawn : plan.DrawnBy lines) : plan.Storable ↔ HasRoom lines := by
  cases lines with
  | nil => exact absurd hdrawn.rows_eq (Nat.ne_of_gt hdrawn.rows_pos)
  | cons first rest =>
      rw [Storable, hdrawn.hasRows.size_tiles, hdrawn.rows_eq,
        ← hdrawn.length_eq first List.mem_cons_self]
      rfl

/-- An accepted drawing comes back line by line. -/
theorem render_eq (hdrawn : plan.DrawnBy lines) (hplan : plan.Storable) :
    plan.render = .ok (String.join (lines.map (· ++ "\n"))) := by
  rw [hdrawn.hasRows.render_of_storable hplan hdrawn.rows_pos hdrawn.columns_pos]
  apply congrArg Except.ok
  apply String.toList_inj.mp
  simp only [String.toList_ofList, String.toList_join, List.flatMap_map, List.map_map,
    String.toList_append]
  congr 1
  funext line
  have hcodes : Tile.code ∘ Tile.ofCode = id := funext Tile.code_ofCode
  rw [hcodes, List.map_id]
  rfl

end DrawnBy

/-- Lines are taken for a width exactly if they draw a plan of that width. -/
theorem ofLinesOfWidth_eq_ok_iff {columns : Nat} (hcolumns : 0 < columns) (hlines : lines ≠ []) :
    ofLinesOfWidth columns lines = .ok plan ↔ plan.DrawnBy lines ∧ plan.columns = columns := by
  rw [ofLinesOfWidth]
  cases hragged : lines.zipIdx.find? fun numbered => decide (numbered.1.length ≠ columns) with
  | some ragged =>
      constructor
      · intro haccepted
        cases haccepted
      · rintro ⟨hdrawn, rfl⟩
        rw [find?_ragged_eq_none_iff.mpr hdrawn.length_eq] at hragged
        cases hragged
  | none =>
      have hlength := find?_ragged_eq_none_iff.mp hragged
      constructor
      · intro haccepted
        cases haccepted
        exact ⟨⟨rfl, List.length_pos_iff.mpr hlines, hcolumns, hlength, rfl⟩, rfl⟩
      · rintro ⟨hdrawn, hwidth⟩
        exact congrArg Except.ok
          (FloorPlan.ext hdrawn.rows_eq.symm hwidth.symm hdrawn.tiles_eq.symm)

section Cons

variable {first : String} {rest : List String} (hfirst : first.length ≠ 0)

include hfirst

/-- Lines behind a first tile are looked at if memory has room for all of them. -/
theorem ofLines_cons_of_hasRoom (hroom : HasRoom (first :: rest)) :
    ofLines (first :: rest) = ofLinesOfWidth first.length (first :: rest) := by
  have hreserve : reserveTiles (first :: rest).length first.length =
      .ok ((first :: rest).length * first.length) := reserveTiles_of_lt hroom
  simp only [ofLines, if_neg hfirst, hreserve]

theorem ofLines_cons_of_not_hasRoom (hroom : ¬ HasRoom (first :: rest)) :
    ofLines (first :: rest) =
      .error (.fault (areaFault (first :: rest).length first.length)) := by
  have hreserve : reserveTiles (first :: rest).length first.length =
      .error (areaFault (first :: rest).length first.length) :=
    reserveTiles_of_le (Nat.le_of_not_lt hroom)
  simp only [ofLines, if_neg hfirst, hreserve]

end Cons

/-- A list of lines is accepted exactly for the plan that it draws, if memory has room for it. -/
theorem ofLines_eq_ok_iff : ofLines lines = .ok plan ↔ plan.DrawnBy lines ∧ plan.Storable := by
  cases lines with
  | nil =>
      constructor
      · intro haccepted
        cases haccepted
      · rintro ⟨hdrawn, -⟩
        exact absurd hdrawn.rows_eq (Nat.ne_of_gt hdrawn.rows_pos)
  | cons first rest =>
      by_cases hempty : first.length = 0
      · rw [ofLines, if_pos hempty]
        constructor
        · intro haccepted
          cases haccepted
        · rintro ⟨hdrawn, -⟩
          rw [hdrawn.length_eq first List.mem_cons_self] at hempty
          exact absurd hempty (Nat.ne_of_gt hdrawn.columns_pos)
      by_cases hroom : HasRoom (first :: rest)
      · rw [ofLines_cons_of_hasRoom hempty hroom,
          ofLinesOfWidth_eq_ok_iff (Nat.pos_of_ne_zero hempty) (List.cons_ne_nil _ _)]
        constructor
        · rintro ⟨hdrawn, -⟩
          exact ⟨hdrawn, hdrawn.storable_iff.mpr hroom⟩
        · rintro ⟨hdrawn, -⟩
          exact ⟨hdrawn, (hdrawn.length_eq first List.mem_cons_self).symm⟩
      · rw [ofLines_cons_of_not_hasRoom hempty hroom]
        constructor
        · intro haccepted
          cases haccepted
        · rintro ⟨hdrawn, hstored⟩
          exact absurd (hdrawn.storable_iff.mp hstored) hroom

/-- The lines of a text in which every line is ended by a line feed. -/
def cutLines (text : String) : List String :=
  (text.toList.splitOn '\n').dropLast.map String.ofList

theorem splitOn_flatMap_append {α : Type} [DecidableEq α] {mark : α} {parts : List (List α)}
    (hparts : ∀ part ∈ parts, mark ∉ part) :
    (parts.flatMap (· ++ [mark])).splitOn mark = parts ++ [[]] := by
  induction parts with
  | nil => rfl
  | cons part parts ih =>
      obtain ⟨hpart, hrest⟩ := List.forall_mem_cons.mp hparts
      rw [List.flatMap_cons, List.append_assoc, List.singleton_append,
        List.splitOn_append_cons_self_of_not_mem hpart, ih hrest, List.cons_append]

/-- Lines without a line feed are found again in their text. -/
theorem cutLines_ofList {parts : List (List Char)} (hparts : ∀ part ∈ parts, '\n' ∉ part) :
    cutLines (String.ofList (parts.flatMap (· ++ ['\n']))) = parts.map String.ofList := by
  rw [cutLines, String.toList_ofList, splitOn_flatMap_append hparts, List.dropLast_concat]

namespace HasRows

variable {rows : List (List Tile)}

theorem mem_tiles (hrows : plan.HasRows rows) {row : List Tile} (hrow : row ∈ rows)
    {tile : Tile} (htile : tile ∈ row) : tile ∈ plan.tiles := by
  rw [← Array.mem_toList_iff, ← hrows.flatten_eq]
  exact List.mem_flatten.mpr ⟨row, hrow, htile⟩

/-- A plan is drawn by the lines that show its rows, unless a tile keeps a
reserved character. -/
theorem drawnBy (hrows : plan.HasRows rows) (hpositive : 0 < plan.rows)
    (hcolumns : 0 < plan.columns)
    (hcodes : ∀ tile ∈ plan.tiles, ∀ code ∈ Tile.reservedCodes, tile ≠ .other code) :
    plan.DrawnBy (rows.map fun row => String.ofList (row.map Tile.code)) where
  rows_eq := by rw [List.length_map, hrows.length_eq]
  rows_pos := hpositive
  columns_pos := hcolumns
  length_eq := by
    intro line hline
    obtain ⟨row, hrow, rfl⟩ := List.mem_map.mp hline
    rw [String.length_ofList, List.length_map, hrows.width_eq row hrow]
  tiles_eq := by
    have hread : ∀ row ∈ rows, (row.map Tile.code).map Tile.ofCode = row := by
      intro row hrow
      have hkept : ∀ tile ∈ row, (Tile.ofCode ∘ Tile.code) tile = tile := fun tile htile =>
        Tile.ofCode_code (hcodes tile (hrows.mem_tiles hrow htile))
      rw [List.map_map, List.map_congr_left hkept, List.map_id']
    apply Array.toList_inj.mp
    simp only [List.flatMap_map, String.toList_ofList]
    rw [← hrows.flatten_eq, List.flatMap_def, List.map_congr_left hread, List.map_id']

/-- The lines of a drawing show the rows, unless a tile is drawn as a line feed. -/
theorem cutLines_drawing (hrows : plan.HasRows rows)
    (hcodes : ∀ tile ∈ plan.tiles, tile.code ≠ '\n') :
    cutLines (String.ofList (rows.flatMap fun row => row.map Tile.code ++ ['\n'])) =
      rows.map fun row => String.ofList (row.map Tile.code) := by
  have hparts : ∀ part ∈ rows.map (List.map Tile.code), '\n' ∉ part := by
    intro part hpart hmem
    obtain ⟨row, hrow, rfl⟩ := List.mem_map.mp hpart
    obtain ⟨tile, htile, hcode⟩ := List.mem_map.mp hmem
    exact hcodes tile (hrows.mem_tiles hrow htile) hcode
  have hcut := cutLines_ofList hparts
  rw [List.flatMap_map, List.map_map] at hcut
  exact hcut

end HasRows

/-- Reading and drawing are inverse to each other: an accepted drawing comes back
line by line, and a plan comes back from the lines of its drawing, unless a tile
is drawn as a line feed or keeps a reserved character. -/
theorem ofLines_render_inverse :
    (∀ (lines : List String) (plan : FloorPlan), ofLines lines = .ok plan →
      plan.render = .ok (String.join (lines.map (· ++ "\n")))) ∧
    ∀ plan : FloorPlan, plan.WellFormed → plan.Storable → 0 < plan.rows → 0 < plan.columns →
      (∀ tile ∈ plan.tiles, tile.code ≠ '\n' ∧
        ∀ code ∈ Tile.reservedCodes, tile ≠ .other code) →
      ∃ text, plan.render = .ok text ∧ ofLines (cutLines text) = .ok plan := by
  constructor
  · intro lines plan hlines
    obtain ⟨hdrawn, hplan⟩ := ofLines_eq_ok_iff.mp hlines
    exact hdrawn.render_eq hplan
  · intro plan hwellFormed hplan hpositive hcolumns hcodes
    obtain ⟨rows, hrows⟩ := hwellFormed.exists_hasRows
    refine ⟨_, hrows.render_of_storable hplan hpositive hcolumns, ?_⟩
    rw [hrows.cutLines_drawing fun tile htile => (hcodes tile htile).1, ofLines_eq_ok_iff]
    exact ⟨hrows.drawnBy hpositive hcolumns fun tile htile => (hcodes tile htile).2, hplan⟩

/-- A drawing with a line feed in its first line. -/
def alcoveLines : List String := ["dK\n", "Pé."]

/-- The plan of that drawing. -/
def alcove : FloorPlan :=
  ⟨2, 3, #[.door, .kitchenFloor, .other '\n', .occupant, .other 'é', .plainFloor]⟩

/-- Two rows of two tiles that can be read off their drawing. -/
def pantry : FloorPlan := ⟨2, 2, #[.counter, .fridge, .other 'é', .veganDish]⟩

theorem ofLines_render_inverse_alcove :
    ofLines alcoveLines = .ok alcove ∧
      alcove.render = .ok (String.join (alcoveLines.map (· ++ "\n"))) ∧
      pantry.WellFormed ∧ pantry.Storable ∧ 0 < pantry.rows ∧ 0 < pantry.columns ∧
      (∀ tile ∈ pantry.tiles, tile.code ≠ '\n' ∧
        ∀ code ∈ Tile.reservedCodes, tile ≠ .other code) ∧
      ∃ text, pantry.render = .ok text ∧ ofLines (cutLines text) = .ok pantry := by
  have hlines : ofLines alcoveLines = .ok alcove := rfl
  have hplan : pantry.WellFormed := ⟨by decide, by decide⟩
  have hpantry : pantry.Storable := by decide
  have hcodes : ∀ tile ∈ pantry.tiles, tile.code ≠ '\n' ∧
      ∀ code ∈ Tile.reservedCodes, tile ≠ .other code := by
    simp [pantry, Tile.code, Tile.reservedCodes]
  exact ⟨hlines, ofLines_render_inverse.1 _ _ hlines, hplan, hpantry,
    by decide, by decide, hcodes,
    ofLines_render_inverse.2 pantry hplan hpantry (by decide) (by decide) hcodes⟩

end FloorPlan

end DishPlanner

import DishPlanner.Floor.Drawing
import DishPlanner.Proofs.Floor.Access

/-!
# Plans row by row

The array of a plan is the concatenation of its rows.  Seen this way a position
is looked up in two steps, first its row and then its tile, and a drawing shows
one line for each row: cutting the array into bands of the plan's width finds
the rows again.
-/

namespace DishPlanner

section Bands

variable {α : Type}

/-- The bands of a list, the last of which may be shorter. -/
def bandsOf (width : Nat) (items : List α) : List (List α) :=
  (List.range ((items.length + width - 1) / width)).map fun band =>
    (items.drop (band * width)).take width

theorem bandsOf_nil {width : Nat} (hwidth : 0 < width) : bandsOf width ([] : List α) = [] := by
  have hnone : (0 + width - 1) / width = 0 := Nat.div_eq_of_lt (by omega)
  rw [bandsOf, List.length_nil, hnone, List.range_zero, List.map_nil]

theorem bandsOf_append {width : Nat} (hwidth : 0 < width) {band : List α}
    (hband : band.length = width) (items : List α) :
    bandsOf width (band ++ items) = band :: bandsOf width items := by
  have hcount : ((band ++ items).length + width - 1) / width =
      (items.length + width - 1) / width + 1 := by
    rw [← Nat.add_div_right _ hwidth, List.length_append, hband]
    congr 1
    omega
  rw [bandsOf, hcount, List.range_succ_eq_map, List.map_cons, List.map_map, bandsOf]
  congr 1
  · rw [Nat.zero_mul, List.drop_zero, ← hband, List.take_left]
  · apply List.map_congr_left
    intro place _
    have hplace : (place + 1) * width = band.length + place * width := by
      rw [hband, Nat.succ_mul, Nat.add_comm]
    rw [Function.comp_apply, Nat.succ_eq_add_one, hplace, ← List.drop_drop, List.drop_left]

/-- Bands of one width are what their concatenation is cut into. -/
theorem bandsOf_flatten {width : Nat} (hwidth : 0 < width) {bands : List (List α)}
    (hbands : ∀ band ∈ bands, band.length = width) : bandsOf width bands.flatten = bands := by
  induction bands with
  | nil => exact bandsOf_nil hwidth
  | cons band bands ih =>
      obtain ⟨hband, hrest⟩ := List.forall_mem_cons.mp hbands
      rw [List.flatten_cons, bandsOf_append hwidth hband, ih hrest]

theorem length_flatten_of_width {width : Nat} {bands : List (List α)}
    (hbands : ∀ band ∈ bands, band.length = width) :
    bands.flatten.length = bands.length * width := by
  rw [List.length_flatten, List.map_congr_left hbands, List.map_const', List.sum_replicate_nat]

/-- A list whose length is a multiple of a width is made of bands of that width. -/
theorem exists_flatten_eq (count width : Nat) {items : List α}
    (hitems : items.length = count * width) :
    ∃ bands : List (List α), bands.length = count ∧
      (∀ band ∈ bands, band.length = width) ∧ bands.flatten = items := by
  induction count generalizing items with
  | zero =>
      rw [Nat.zero_mul] at hitems
      exact ⟨[], rfl, by simp, (List.eq_nil_of_length_eq_zero hitems).symm⟩
  | succ count ih =>
      rw [Nat.succ_mul] at hitems
      have hdrop : (items.drop width).length = count * width := by
        rw [List.length_drop, hitems, Nat.add_sub_cancel]
      obtain ⟨bands, rfl, hbands, hflatten⟩ := ih hdrop
      refine ⟨items.take width :: bands, rfl, ?_, ?_⟩
      · refine List.forall_mem_cons.mpr ⟨?_, hbands⟩
        rw [List.length_take]
        omega
      · rw [List.flatten_cons, hflatten, List.take_append_drop]

/-- An item of a concatenation is looked up in its band. -/
theorem getElem?_flatten_of_width {width column : Nat} (hcolumn : column < width)
    {bands : List (List α)} (hbands : ∀ band ∈ bands, band.length = width) (row : Nat) :
    bands.flatten[row * width + column]? = bands[row]?.bind fun band => band[column]? := by
  induction bands generalizing row with
  | nil => simp
  | cons band bands ih =>
      obtain ⟨hband, hrest⟩ := List.forall_mem_cons.mp hbands
      rw [List.flatten_cons]
      cases row with
      | zero =>
          rw [Nat.zero_mul, Nat.zero_add, List.getElem?_append_left (by omega)]
          rfl
      | succ row =>
          have hplace : (row + 1) * width + column - band.length = row * width + column := by
            rw [hband, Nat.succ_mul]
            omega
          have hbehind : band.length ≤ (row + 1) * width + column := by
            rw [hband, Nat.succ_mul]
            omega
          rw [List.getElem?_append_right hbehind, hplace, ih hrest, List.getElem?_cons_succ]

end Bands

namespace FloorPlan

variable {plan : FloorPlan} {rows : List (List Tile)}

/-! ## Room in memory -/

/-- Why no memory is reserved for a large rectangle. -/
def areaFault (rows columns : Nat) : Fault :=
  if wordCount ≤ rows * columns then .productTooLarge else .capacityTooLarge

theorem reserveTiles_of_lt {rows columns : Nat}
    (hfits : Tile.bytes * (rows * columns) < memoryLimit) :
    reserveTiles rows columns = .ok (rows * columns) := by
  have hproduct : rows * columns < wordCount := by
    rw [Tile.bytes, memoryLimit] at hfits
    rw [wordCount]
    omega
  simp only [reserveTiles, checkedMul_of_lt hproduct, bind, Except.bind, reserve_of_lt hfits]
  rfl

theorem reserveTiles_of_le {rows columns : Nat}
    (hlarge : memoryLimit ≤ Tile.bytes * (rows * columns)) :
    reserveTiles rows columns = .error (areaFault rows columns) := by
  by_cases hproduct : wordCount ≤ rows * columns
  · rw [reserveTiles, checkedMul_of_le hproduct, areaFault, if_pos hproduct]
    rfl
  · rw [areaFault, if_neg hproduct]
    simp only [reserveTiles, checkedMul_of_lt (Nat.lt_of_not_le hproduct), bind, Except.bind,
      reserve_of_le hlarge]

/-- The array of tiles fits into one piece of memory. -/
def Storable (plan : FloorPlan) : Prop := Tile.bytes * plan.tiles.size < memoryLimit

instance (plan : FloorPlan) : Decidable plan.Storable := inferInstanceAs (Decidable (_ < _))

theorem Storable.wellFormed (hplan : plan.Storable)
    (hsize : plan.tiles.size = plan.rows * plan.columns) : plan.WellFormed := by
  refine ⟨hsize, ?_⟩
  rw [Storable, hsize, Tile.bytes, memoryLimit] at hplan
  rw [wordCount]
  omega

/-- A drawing that fits into one piece of memory has a line for each band of the array. -/
theorem render_of_fits (hwide : plan.columns + 1 < wordCount)
    (hfits : plan.rows * (plan.columns + 1) < memoryLimit) :
    plan.render =
      .ok (String.ofList (plan.bands.flatMap fun band => band.toList.map Tile.code ++ ['\n'])) := by
  have hbytes : 1 * (plan.rows * (plan.columns + 1)) < memoryLimit := by rwa [Nat.one_mul]
  have hproduct := Nat.lt_trans hfits memoryLimit_lt_wordCount
  rw [render, checkedAdd_of_lt hwide]
  simp only [bind, Except.bind, checkedMul_of_lt hproduct, reserve_of_lt hbytes]
  rfl

/-- The rows of a plan, from the first to the last. -/
structure HasRows (plan : FloorPlan) (rows : List (List Tile)) : Prop where
  length_eq : rows.length = plan.rows
  width_eq : ∀ row ∈ rows, row.length = plan.columns
  flatten_eq : rows.flatten = plan.tiles.toList

theorem WellFormed.exists_hasRows (hplan : plan.WellFormed) : ∃ rows, plan.HasRows rows := by
  have hsize : plan.tiles.toList.length = plan.rows * plan.columns := hplan.size_tiles
  obtain ⟨rows, hlength, hwidth, hflatten⟩ := exists_flatten_eq _ _ hsize
  exact ⟨rows, hlength, hwidth, hflatten⟩

namespace HasRows

theorem size_tiles (hrows : plan.HasRows rows) :
    plan.tiles.size = plan.rows * plan.columns := by
  rw [← Array.length_toList, ← hrows.flatten_eq, length_flatten_of_width hrows.width_eq,
    hrows.length_eq]

theorem tileAt_eq (hrows : plan.HasRows rows) (position : Position) :
    plan.tileAt position =
      rows[position.row]?.bind fun row => row[position.column]? := by
  by_cases hcovers : plan.Covers position
  · rw [tileAt, if_pos hcovers, index, ← Array.getElem?_toList, ← hrows.flatten_eq,
      getElem?_flatten_of_width hcovers.2 hrows.width_eq]
  · rw [tileAt, if_neg hcovers, eq_comm, Option.bind_eq_none_iff]
    intro row hrow
    -- The row exists, so it is the column that lies outside.
    obtain ⟨hlt, hget⟩ := List.getElem?_eq_some_iff.mp hrow
    have hwidth := hrows.width_eq row (hget ▸ List.getElem_mem hlt)
    rw [hrows.length_eq] at hlt
    exact List.getElem?_eq_none (hwidth ▸ Nat.le_of_not_lt fun hcolumn =>
      hcovers ⟨hlt, hcolumn⟩)

/-- The bands of a drawing are the rows of the plan. -/
theorem bands_eq (hrows : plan.HasRows rows) (hcolumns : 0 < plan.columns) :
    plan.bands.map Array.toList = rows := by
  have hcut := bandsOf_flatten hcolumns hrows.width_eq
  rw [hrows.flatten_eq] at hcut
  rw [bands, Nat.max_eq_left hcolumns, List.map_map, ← hcut, bandsOf, Array.length_toList]
  apply List.map_congr_left
  intro band _
  rw [Function.comp_apply, Array.toList_extract, List.extract_eq_take_drop, Nat.succ_mul,
    Nat.add_sub_cancel_left]

/-- A drawing that fits into one piece of memory has a line for each row. -/
theorem render_eq (hrows : plan.HasRows rows) (hcolumns : 0 < plan.columns)
    (hfits : plan.rows * (plan.columns + 1) < memoryLimit) (hwide : plan.columns + 1 < wordCount) :
    plan.render =
      .ok (String.ofList (rows.flatMap fun row => row.map Tile.code ++ ['\n'])) := by
  rw [render_of_fits hwide hfits, ← hrows.bands_eq hcolumns, List.flatMap_map]

/-- The drawing of a plan whose tiles fit into memory does so, too: it takes no more than two
bytes for each of them. -/
theorem render_of_storable (hrows : plan.HasRows rows) (hplan : plan.Storable)
    (hpositive : 0 < plan.rows) (hcolumns : 0 < plan.columns) :
    plan.render =
      .ok (String.ofList (rows.flatMap fun row => row.map Tile.code ++ ['\n'])) := by
  rw [Storable, hrows.size_tiles, Tile.bytes, memoryLimit] at hplan
  have hrow : plan.rows ≤ plan.rows * plan.columns := Nat.le_mul_of_pos_right _ hcolumns
  have hcolumn : plan.columns ≤ plan.rows * plan.columns := Nat.le_mul_of_pos_left _ hpositive
  apply hrows.render_eq hcolumns
  · rw [Nat.mul_succ, memoryLimit]
    omega
  · rw [wordCount]
    omega

end HasRows

end FloorPlan

end DishPlanner

import DishPlanner.Proofs.Floor.Drawing

/-!
# Which lines are accepted

The rectangles of characters that memory has room for are accepted and nothing
else.  Other lines are refused because there is no first tile, then because the
line on top asks for more tiles than there is room for, or else because of the
first line that does not have as many characters as the line on top; the refusal
tells its place and both numbers.
-/

namespace DishPlanner

namespace FloorPlan

variable {plan : FloorPlan} {lines : List String} {row found expected : Nat}

/-- The first line that is not as long as the line on top. -/
structure FirstRagged (lines : List String) (row found expected : Nat) : Prop where
  top_eq : lines[0]?.map String.length = some expected
  above_eq : ∀ above < row, lines[above]?.map String.length = some expected
  found_eq : lines[row]?.map String.length = some found
  ragged : found ≠ expected

/-- There is a line on top, it has a character, and all lines are as long. -/
def IsRectangle (lines : List String) : Prop :=
  ∃ width, 0 < width ∧ lines ≠ [] ∧ ∀ line ∈ lines, line.length = width

/-- The plan has a row for each line and shows its characters. -/
structure ReadsOff (plan : FloorPlan) (lines : List String) : Prop where
  rows_eq : plan.rows = lines.length
  columns_eq : ∀ line ∈ lines, plan.columns = line.length
  size_tiles : plan.tiles.size = plan.rows * plan.columns
  tile_eq : ∀ position, plan.Covers position →
    ∃ line code, lines[position.row]? = some line ∧ line.toList[position.column]? = some code ∧
      plan.tiles[position.row * plan.columns + position.column]? = some (.ofCode code) ∧
      plan.read position = .ok (some (.ofCode code))

/-! ## Refusals -/

/-- The search for a ragged line stops at the first one. -/
theorem find?_ragged_eq_some_iff {width : Nat} {line : String} :
    (lines.zipIdx.find? fun numbered => decide (numbered.1.length ≠ width)) = some (line, row) ↔
      lines[row]? = some line ∧ line.length ≠ width ∧
        ∀ above < row, lines[above]?.map String.length = some width := by
  rw [List.find?_eq_some_iff_getElem]
  simp only [List.getElem_zipIdx, List.length_zipIdx, Nat.zero_add, Prod.mk.injEq,
    decide_eq_true_eq, Bool.not_eq_true', decide_eq_false_iff_not, Classical.not_not]
  constructor
  · rintro ⟨hragged, place, hplace, ⟨hline, rfl⟩, habove⟩
    refine ⟨List.getElem?_eq_some_iff.mpr ⟨hplace, hline⟩, hragged, fun above hlt => ?_⟩
    rw [List.getElem?_eq_getElem (Nat.lt_trans hlt hplace), Option.map_some, habove above hlt]
  · rintro ⟨hline, hragged, habove⟩
    obtain ⟨hplace, hline⟩ := List.getElem?_eq_some_iff.mp hline
    refine ⟨hragged, row, hplace, ⟨hline, rfl⟩, fun above hlt => ?_⟩
    have hlength := habove above hlt
    rw [List.getElem?_eq_getElem (Nat.lt_trans hlt hplace), Option.map_some] at hlength
    exact Option.some.inj hlength

/-- Lines are refused for the width of the line on top because of the first ragged one. -/
theorem ofLinesOfWidth_eq_error_iff {width : Nat} {error : DrawingError}
    (htop : lines[0]?.map String.length = some width) :
    ofLinesOfWidth width lines = .error error ↔
      ∃ row found, error = .raggedRow row found width ∧ FirstRagged lines row found width := by
  rw [ofLinesOfWidth]
  constructor
  · intro hrefused
    cases hsearch : lines.zipIdx.find? fun numbered => decide (numbered.1.length ≠ width) with
    | none =>
        rw [hsearch] at hrefused
        cases hrefused
    | some numbered =>
        obtain ⟨line, row⟩ := numbered
        rw [hsearch] at hrefused
        obtain ⟨hline, hragged, habove⟩ := find?_ragged_eq_some_iff.mp hsearch
        exact ⟨row, line.length, (Except.error.inj hrefused).symm, htop, habove,
          by rw [hline, Option.map_some], hragged⟩
  · rintro ⟨row, found, rfl, hragged⟩
    obtain ⟨line, hline, rfl⟩ := Option.map_eq_some_iff.mp hragged.found_eq
    rw [find?_ragged_eq_some_iff.mpr ⟨hline, hragged.ragged, hragged.above_eq⟩]

/-- Below a line on top that has a character lines are refused for want of memory, or else
because one of them is ragged. -/
theorem ofLines_cons_eq_error_iff {first : String} {rest : List String} {error : DrawingError}
    (hfirst : first.length ≠ 0) :
    ofLines (first :: rest) = .error error ↔
      (¬ HasRoom (first :: rest) ∧
        error = .fault (areaFault (first :: rest).length first.length)) ∨
      (HasRoom (first :: rest) ∧ ∃ row found, error = .raggedRow row found first.length ∧
        FirstRagged (first :: rest) row found first.length) := by
  by_cases hroom : HasRoom (first :: rest)
  · rw [ofLines_cons_of_hasRoom hfirst hroom, ofLinesOfWidth_eq_error_iff rfl]
    simp only [hroom, not_true_eq_false, false_and, true_and, false_or]
  · rw [ofLines_cons_of_not_hasRoom hfirst hroom]
    simp [hroom, eq_comm]

theorem ofLines_eq_empty_iff :
    ofLines lines = .error .empty ↔ lines = [] ∨ lines.head? = some "" := by
  cases lines with
  | nil => exact iff_of_true rfl (.inl rfl)
  | cons first rest =>
      by_cases hfirst : first.length = 0
      · have hempty : first = "" := String.length_eq_zero_iff.mp hfirst
        subst hempty
        exact iff_of_true rfl (.inr rfl)
      · rw [ofLines_cons_eq_error_iff hfirst]
        constructor
        · rintro (⟨-, herror⟩ | ⟨-, row, found, herror, -⟩) <;> cases herror
        · rintro (hnone | hempty)
          · cases hnone
          · rw [Option.some.inj hempty] at hfirst
            exact absurd rfl hfirst

/-- Without a first tile no memory is asked for. -/
theorem hasRoom_of_topWidth (htop : topWidth lines = 0) : HasRoom lines := by
  rw [HasRoom, htop, Nat.mul_zero, Nat.mul_zero]
  decide

theorem ofLines_eq_fault_iff {fault : Fault} :
    ofLines lines = .error (.fault fault) ↔
      ¬ HasRoom lines ∧ fault = areaFault lines.length (topWidth lines) := by
  cases lines with
  | nil =>
      refine iff_of_false (fun hrefused => ?_) fun h => h.1 (hasRoom_of_topWidth rfl)
      cases hrefused
  | cons first rest =>
      by_cases hfirst : first.length = 0
      · have hempty : ofLines (first :: rest) = .error .empty := if_pos hfirst
        rw [hempty]
        refine iff_of_false (fun hrefused => ?_) fun h => h.1 (hasRoom_of_topWidth hfirst)
        cases hrefused
      · rw [ofLines_cons_eq_error_iff hfirst]
        constructor
        · rintro (⟨hroom, herror⟩ | ⟨-, row, found, herror, -⟩)
          · exact ⟨hroom, DrawingError.fault.inj herror⟩
          · cases herror
        · rintro ⟨hroom, rfl⟩
          exact .inl ⟨hroom, rfl⟩

theorem ofLines_eq_raggedRow_iff :
    ofLines lines = .error (.raggedRow row found expected) ↔
      HasRoom lines ∧ 0 < expected ∧ FirstRagged lines row found expected := by
  cases lines with
  | nil =>
      constructor
      · intro hrefused
        cases hrefused
      · rintro ⟨-, -, hragged⟩
        cases hragged.top_eq
  | cons first rest =>
      by_cases hfirst : first.length = 0
      · have hempty : ofLines (first :: rest) = .error .empty := if_pos hfirst
        rw [hempty]
        constructor
        · intro hrefused
          cases hrefused
        · rintro ⟨-, hexpected, hragged⟩
          rw [← Option.some.inj hragged.top_eq, hfirst] at hexpected
          exact absurd hexpected (Nat.lt_irrefl 0)
      · rw [ofLines_cons_eq_error_iff hfirst]
        constructor
        · rintro (⟨-, herror⟩ | ⟨hroom, _, _, herror, hragged⟩)
          · cases herror
          · obtain ⟨rfl, rfl, rfl⟩ := DrawingError.raggedRow.inj herror
            exact ⟨hroom, Nat.pos_of_ne_zero hfirst, hragged⟩
        · rintro ⟨hroom, -, hragged⟩
          have hwidth : first.length = expected := Option.some.inj hragged.top_eq
          subst hwidth
          exact .inr ⟨hroom, row, found, rfl, hragged⟩

/-! ## Acceptance -/

/-- A plan is drawn by lines exactly if they are a rectangle. -/
theorem exists_drawnBy_iff : (∃ plan : FloorPlan, plan.DrawnBy lines) ↔ IsRectangle lines := by
  constructor
  · rintro ⟨plan, hdrawn⟩
    refine ⟨plan.columns, hdrawn.columns_pos, ?_, hdrawn.length_eq⟩
    exact List.length_pos_iff.mp (hdrawn.rows_eq ▸ hdrawn.rows_pos)
  · rintro ⟨width, hwidth, hlines, hlength⟩
    exact ⟨⟨lines.length, width, _⟩, rfl, List.length_pos_iff.mpr hlines, hwidth, hlength, rfl⟩

/-- Rectangles are accepted as far as there is room for them, and nothing else is. -/
theorem exists_ofLines_iff :
    (∃ plan, ofLines lines = .ok plan) ↔ HasRoom lines ∧ IsRectangle lines := by
  simp only [ofLines_eq_ok_iff]
  constructor
  · rintro ⟨plan, hdrawn, hstored⟩
    exact ⟨hdrawn.storable_iff.mp hstored, exists_drawnBy_iff.mp ⟨plan, hdrawn⟩⟩
  · rintro ⟨hroom, hrectangle⟩
    obtain ⟨plan, hdrawn⟩ := exists_drawnBy_iff.mpr hrectangle
    exact ⟨plan, hdrawn, hdrawn.storable_iff.mpr hroom⟩

/-- A covered position has its line and its character, and shows the tile of it. -/
theorem DrawnBy.exists_code (hdrawn : plan.DrawnBy lines) {position : Position}
    (hcovers : plan.Covers position) :
    ∃ line code, lines[position.row]? = some line ∧ line.toList[position.column]? = some code ∧
      plan.tiles[position.row * plan.columns + position.column]? = some (.ofCode code) := by
  have hrow : position.row < lines.length := hdrawn.rows_eq ▸ hcovers.1
  have hline := List.getElem?_eq_getElem hrow
  have hcolumn : position.column < lines[position.row].toList.length := by
    rw [String.length_toList, hdrawn.length_eq _ (List.getElem_mem hrow)]
    exact hcovers.2
  have hcode := List.getElem?_eq_getElem hcolumn
  refine ⟨_, _, hline, hcode, ?_⟩
  calc plan.tiles[position.row * plan.columns + position.column]?
    _ = plan.tileAt position := (if_pos hcovers).symm
    _ = some (.ofCode lines[position.row].toList[position.column]) := by
      rw [hdrawn.hasRows.tileAt_eq, List.getElem?_map, hline, Option.map_some, Option.bind_some,
        List.getElem?_map, hcode, Option.map_some]

theorem DrawnBy.readsOff (hdrawn : plan.DrawnBy lines) (hplan : plan.WellFormed) :
    plan.ReadsOff lines where
  rows_eq := hdrawn.rows_eq
  columns_eq line hline := (hdrawn.length_eq line hline).symm
  size_tiles := hplan.size_tiles
  tile_eq position hcovers := by
    obtain ⟨line, code, hline, hcode, htile⟩ := hdrawn.exists_code hcovers
    have hread : plan.tileAt position = some (.ofCode code) := (if_pos hcovers).trans htile
    exact ⟨line, code, hline, hcode, htile, by rw [hplan.read_eq, hread]⟩

/-- Lines are refused for want of a first tile, then for want of memory, then for the first
line that is not as long as the one on top, and all others are accepted. -/
theorem ofLines_accepts_rectangles (lines : List String) :
    (ofLines lines = .error .empty ↔ lines = [] ∨ lines.head? = some "") ∧
    (∀ fault, ofLines lines = .error (.fault fault) ↔
      ¬ HasRoom lines ∧ fault = areaFault lines.length (topWidth lines)) ∧
    (∀ row found expected, ofLines lines = .error (.raggedRow row found expected) ↔
      HasRoom lines ∧ 0 < expected ∧ FirstRagged lines row found expected) ∧
    ((∃ plan, ofLines lines = .ok plan) ↔ HasRoom lines ∧ IsRectangle lines) ∧
    ∀ plan, ofLines lines = .ok plan → plan.ReadsOff lines := by
  refine ⟨ofLines_eq_empty_iff, fun _ => ofLines_eq_fault_iff,
    fun _ _ _ => ofLines_eq_raggedRow_iff, exists_ofLines_iff, ?_⟩
  intro plan haccepted
  obtain ⟨hdrawn, hstored⟩ := ofLines_eq_ok_iff.mp haccepted
  exact hdrawn.readsOff (hstored.wellFormed hdrawn.hasRows.size_tiles)

/-- Lines of two, three and one characters; none of the characters is a single byte. -/
def raggedLines : List String := ["éé", "ééé", "é"]

theorem ofLines_accepts_rectangles_alcove :
    ofLines alcoveLines = .ok alcove ∧ IsRectangle alcoveLines ∧ alcove.ReadsOff alcoveLines ∧
      ofLines raggedLines = .error (.raggedRow 1 3 2) ∧ FirstRagged raggedLines 1 3 2 ∧
      ofLines ["", "é"] = .error .empty := by
  have haccepted : ofLines alcoveLines = .ok alcove := rfl
  have hragged : ofLines raggedLines = .error (.raggedRow 1 3 2) := rfl
  obtain ⟨-, -, -, hrectangle, hreadsOff⟩ := ofLines_accepts_rectangles alcoveLines
  obtain ⟨-, -, hrefused, -, -⟩ := ofLines_accepts_rectangles raggedLines
  obtain ⟨hempty, -, -, -, -⟩ := ofLines_accepts_rectangles ["", "é"]
  exact ⟨haccepted, (hrectangle.mp ⟨alcove, haccepted⟩).2, hreadsOff alcove haccepted, hragged,
    ((hrefused 1 3 2).mp hragged).2.2, hempty.mpr (.inr rfl)⟩

theorem topWidth_replicate {count : Nat} (hcount : 0 < count) (line : String) :
    topWidth (List.replicate count line) = line.length := by
  rw [topWidth, List.head?_replicate, if_neg (Nat.ne_of_gt hcount)]
  rfl

theorem isRectangle_replicate {count : Nat} (hcount : 0 < count) {line : String}
    (hline : 0 < line.length) : IsRectangle (List.replicate count line) := by
  refine ⟨line.length, hline, ?_, ?_⟩
  · rw [ne_eq, List.replicate_eq_nil_iff]
    exact Nat.ne_of_gt hcount
  · intro other hother
    rw [List.eq_of_mem_replicate hother]

/-- Half a milliard of lines with four milliards of tiles each are a rectangle that memory has
no room for. -/
theorem vast_rectangle_refused :
    let lines := List.replicate 536870912 (String.ofList (List.replicate 4294967296 'W'))
    IsRectangle lines ∧ (¬ ∃ plan, ofLines lines = .ok plan) ∧
      ofLines lines = .error (.fault .capacityTooLarge) := by
  intro lines
  have hlength : (String.ofList (List.replicate 4294967296 'W')).length = 4294967296 := by
    rw [String.length_ofList, List.length_replicate]
  have htop : topWidth lines = 4294967296 :=
    (topWidth_replicate (by decide) _).trans hlength
  have hcount : lines.length = 536870912 := List.length_replicate
  have hroom : ¬ HasRoom lines := by
    rw [HasRoom, htop, hcount]
    decide
  have hfault : areaFault lines.length (topWidth lines) = .capacityTooLarge := by
    rw [htop, hcount]
    decide
  refine ⟨isRectangle_replicate (by decide) (by rw [hlength]; decide), ?_, ?_⟩
  · exact fun haccepted => hroom (exists_ofLines_iff.mp haccepted).1
  · exact ofLines_eq_fault_iff.mpr ⟨hroom, hfault.symm⟩

end FloorPlan

end DishPlanner

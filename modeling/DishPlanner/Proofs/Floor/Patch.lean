import DishPlanner.Proofs.Floor.Scan
import DishPlanner.Proofs.Floor.Store
import Mathlib.Data.List.ReduceOption

/-!
# Differences as patches

The differences of two plans are a patch: copying the tiles of the second plan at
these positions turns the first plan into the second, if the plans are of one
size, and no change that leaves out one of these positions does so.  Plans of one
size are the same as soon as they show the same tiles, since every place of an
array belongs to a position.
-/

namespace DishPlanner

namespace FloorPlan

variable {plan left right source : FloorPlan} {position : Position}

/-! ## Plans that show the same tiles -/

/-- Plans of one size cover the same positions. -/
theorem Covers.of_size_eq (hcovers : left.Covers position) (hrows : left.rows = right.rows)
    (hcolumns : left.columns = right.columns) : right.Covers position := by
  rwa [Covers, ← hrows, ← hcolumns]

/-- Every place of the array belongs to a position. -/
theorem WellFormed.exists_index_eq (hplan : plan.WellFormed) {place : Nat}
    (hplace : place < plan.tiles.size) :
    ∃ position, plan.Covers position ∧ plan.index position = place := by
  rw [hplan.size_tiles] at hplace
  have hcolumns : 0 < plan.columns := Nat.pos_of_mul_pos_left (Nat.zero_lt_of_lt hplace)
  have hrow : place / plan.columns < plan.rows :=
    (Nat.div_lt_iff_lt_mul hcolumns).mpr hplace
  exact ⟨⟨place / plan.columns, place % plan.columns⟩, ⟨hrow, Nat.mod_lt place hcolumns⟩,
    Nat.div_add_mod' place plan.columns⟩

/-- Plans of one size that show the same tiles are the same. -/
theorem WellFormed.eq_of_tileAt_eq (hleft : left.WellFormed) (hright : right.WellFormed)
    (hrows : left.rows = right.rows) (hcolumns : left.columns = right.columns)
    (htiles : ∀ position, left.Covers position →
      left.tileAt position = right.tileAt position) : left = right := by
  have hsize : left.tiles.size = right.tiles.size := by
    rw [hleft.size_tiles, hright.size_tiles, hrows, hcolumns]
  apply FloorPlan.ext hrows hcolumns
  apply Array.ext hsize
  intro place hplace hother
  obtain ⟨position, hcovers, hindex⟩ := hleft.exists_index_eq hplace
  have hcovered := hcovers.of_size_eq hrows hcolumns
  have hplaces : right.index position = place := by rw [← hindex, index, index, hcolumns]
  have hshown := htiles position hcovers
  rw [tileAt, if_pos hcovers, tileAt, if_pos hcovered, hindex, hplaces,
    Array.getElem?_eq_getElem hplace, Array.getElem?_eq_getElem hother] at hshown
  exact Option.some.inj hshown

/-! ## Copies -/

/-- The overwritings with the tiles that a plan shows at listed positions. -/
def copying (source : FloorPlan) (positions : List Position) : Except Fault (List Change) := do
  let copies ← positions.mapM fun position =>
    return (← source.read position).map (Change.overwrite position)
  return copies.reduceOption

/-- The copies of a plan that can be read. -/
def copies (source : FloorPlan) (positions : List Position) : List Change :=
  positions.filterMap fun position => (source.tileAt position).map (Change.overwrite position)

theorem WellFormed.copying_eq (hsource : source.WellFormed) (positions : List Position) :
    source.copying positions = .ok (source.copies positions) := by
  have hread : ∀ position ∈ positions,
      (do return (← source.read position).map (Change.overwrite position)) =
        (Except.ok ((source.tileAt position).map (Change.overwrite position)) :
          Except Fault (Option Change)) := by
    intro position _
    rw [hsource.read_eq]
    rfl
  rw [copying, mapM_eq_ok hread]
  change Except.ok (List.reduceOption _) = _
  rw [List.reduceOption, List.filterMap_map]
  rfl

theorem copies_cons_of_tileAt {tile : Tile} (htile : source.tileAt position = some tile)
    (positions : List Position) :
    source.copies (position :: positions) =
      .overwrite position tile :: source.copies positions := by
  rw [copies, List.filterMap_cons_some (by rw [htile, Option.map_some])]
  rfl

theorem copies_cons_of_none (hnone : source.tileAt position = none)
    (positions : List Position) :
    source.copies (position :: positions) = source.copies positions := by
  rw [copies, List.filterMap_cons_none (by rw [hnone, Option.map_none])]
  rfl

/-- The latest copy at a listed position brings the tile of the source. -/
theorem latest_copies (positions : List Position) (position : Position) :
    (latest (source.copies positions) position).map Change.tile =
      if position ∈ positions then source.tileAt position else none := by
  induction positions with
  | nil => rfl
  | cons first positions ih =>
      cases hfirst : source.tileAt first with
      | none =>
          rw [copies_cons_of_none hfirst, ih]
          by_cases hsame : position = first
          · simp [hsame, hfirst]
          · simp [hsame]
      | some tile =>
          rw [copies_cons_of_tileAt hfirst, latest_cons, Option.map_or, ih]
          by_cases hsame : position = first
          · -- A later copy at the same position brings the same tile.
            by_cases hlater : first ∈ positions
            · simp [hsame, hfirst, hlater]
            · simp [hsame, hfirst, hlater, Change.Reaches, Change.tile]
          · simp [hsame, Change.Reaches]

/-- Positions inside the source are overwritten one after the other. -/
theorem WellFormed.targets_copies (hsource : source.WellFormed) {positions : List Position}
    (hpositions : ∀ position ∈ positions, source.Covers position) :
    (source.copies positions).filterMap Change.target? = positions := by
  induction positions with
  | nil => rfl
  | cons position positions ih =>
      obtain ⟨hposition, hrest⟩ := List.forall_mem_cons.mp hpositions
      obtain ⟨tile, htile⟩ := hsource.exists_tileAt hposition
      have htarget : (Change.overwrite position tile).target? = some position := rfl
      rw [copies_cons_of_tileAt htile, List.filterMap_cons_some htarget, ih hrest]

/-- A plan that takes over every tile in which it differs from another plan of its
size becomes that plan. -/
theorem WellFormed.carryOut_copies (hleft : left.WellFormed) (hright : right.WellFormed)
    (hrows : left.rows = right.rows) (hcolumns : left.columns = right.columns)
    {positions : List Position}
    (hcovers : ∀ position ∈ positions, left.Covers position)
    (hdiffer : ∀ position, left.Covers position →
      left.tileAt position ≠ right.tileAt position → position ∈ positions) :
    left.carryOut (right.copies positions) =
      .ok (right, List.replicate positions.length true) := by
  obtain ⟨last, hlast, hkeeps⟩ := hleft.exists_carryOut (right.copies positions)
  have hshown : ∀ position, last.Covers position →
      last.tileAt position = right.tileAt position := by
    intro position hposition
    have hinside := hposition.of_size_eq hkeeps.rows_eq hkeeps.columns_eq
    obtain ⟨tile, htile⟩ := hright.exists_tileAt (hinside.of_size_eq hrows hcolumns)
    rw [hkeeps.tileAt_eq position hinside, latest_copies]
    by_cases hlisted : position ∈ positions
    · rw [if_pos hlisted, htile, Option.some_or]
    · rw [if_neg hlisted, Option.none_or]
      exact Classical.byContradiction fun hother => hlisted (hdiffer position hinside hother)
  have hequal : last = right :=
    hkeeps.wellFormed.eq_of_tileAt_eq hright (hkeeps.rows_eq.trans hrows)
      (hkeeps.columns_eq.trans hcolumns) hshown
  have htargets : (right.copies positions).filterMap Change.target? = positions :=
    hright.targets_copies fun position hposition =>
      (hcovers position hposition).of_size_eq hrows hcolumns
  have hanswers : positions.map (fun position => decide (left.Covers position)) =
      List.replicate positions.length true := by
    rw [← List.map_const']
    exact List.map_congr_left fun position hposition => decide_eq_true (hcovers position hposition)
  rw [hlast, hequal, htargets, hanswers]

/-- Changes that turn one plan into another reach every position where the two
differ. -/
theorem WellFormed.exists_reaches (hleft : left.WellFormed) {changes : List Change}
    {answers : List Bool} (hchanges : left.carryOut changes = .ok (right, answers))
    (hcovers : left.Covers position)
    (hdiffer : left.tileAt position ≠ right.tileAt position) :
    ∃ change ∈ changes, change.Reaches position := by
  obtain ⟨last, hlast, hkeeps⟩ := hleft.exists_carryOut changes
  obtain ⟨rfl, -⟩ := Prod.mk.inj (Except.ok.inj (hchanges.symm.trans hlast))
  by_contra hnone
  apply hdiffer
  have hlatest : latest changes position = none := by
    rw [latest, List.find?_eq_none]
    intro change hchange hreaches
    exact hnone ⟨change, List.mem_reverse.mp hchange, of_decide_eq_true hreaches⟩
  rw [hkeeps.tileAt_eq position hcovers, hlatest]
  rfl

/-! ## The differences of two plans -/

/-- What the differences of two plans tell.  They are the positions inside both
plans where the tiles differ, once each and in reading order, whichever plan is
asked.  For plans of one size they make up a patch that turns the first plan into
the second and that is empty for equal plans only; nothing less will do. -/
structure Patches (left right : FloorPlan) (patch : List Position) : Prop where
  symmetric : right.differences left = .ok patch
  ascending : patch.Pairwise (· < ·)
  mem_iff : ∀ position, position ∈ patch ↔
    left.Covers position ∧ right.Covers position ∧
      ∃ before after, left.read position = .ok (some before) ∧
        right.read position = .ok (some after) ∧ before ≠ after
  eq_iff : left.rows = right.rows → left.columns = right.columns →
    (left = right ↔ patch = [])
  turns : left.rows = right.rows → left.columns = right.columns →
    ∃ changes, right.copying patch = .ok changes ∧
      left.carryOut changes = .ok (right, List.replicate patch.length true)
  needed : ∀ changes answers, left.carryOut changes = .ok (right, answers) →
    ∀ position ∈ patch, ∃ change ∈ changes, change.Reaches position

/-- The positions inside both plans where the tiles differ. -/
def differing (left right : FloorPlan) : List Position :=
  (sharedZone left right).positions.filter fun position =>
    left.tileAt position ≠ right.tileAt position

theorem mem_differing :
    position ∈ differing left right ↔ (left.Covers position ∧ right.Covers position) ∧
      left.tileAt position ≠ right.tileAt position := by
  rw [differing, List.mem_filter, Zone.mem_positions, mem_sharedZone, decide_eq_true_eq]

theorem sharedZone_comm (left right : FloorPlan) :
    sharedZone left right = sharedZone right left := by
  rw [sharedZone, sharedZone, Nat.min_comm left.rows, Nat.min_comm left.columns]

theorem differing_comm (left right : FloorPlan) : differing left right = differing right left := by
  rw [differing, differing, sharedZone_comm]
  apply List.filter_congr
  intro position _
  exact decide_eq_decide.mpr ne_comm

/-- Tiles that differ are tiles that can be read. -/
theorem WellFormed.exists_read_ne_iff (hleft : left.WellFormed) (hright : right.WellFormed)
    (hcovers : left.Covers position ∧ right.Covers position) :
    (∃ before after, left.read position = .ok (some before) ∧
        right.read position = .ok (some after) ∧ before ≠ after) ↔
      left.tileAt position ≠ right.tileAt position := by
  obtain ⟨before, hbefore⟩ := hleft.exists_tileAt hcovers.1
  obtain ⟨after, hafter⟩ := hright.exists_tileAt hcovers.2
  simp [hleft.read_eq, hright.read_eq, hbefore, hafter]

theorem WellFormed.eq_iff_differing_eq_nil (hleft : left.WellFormed)
    (hright : right.WellFormed) (hrows : left.rows = right.rows)
    (hcolumns : left.columns = right.columns) :
    left = right ↔ differing left right = [] := by
  rw [List.eq_nil_iff_forall_not_mem]
  constructor
  · rintro rfl position hposition
    exact (mem_differing.mp hposition).2 rfl
  · intro hnone
    apply hleft.eq_of_tileAt_eq hright hrows hcolumns
    intro position hcovers
    by_contra hdiffer
    exact hnone position
      (mem_differing.mpr ⟨⟨hcovers, hcovers.of_size_eq hrows hcolumns⟩, hdiffer⟩)

/-- Asking a well-formed plan for its differences from another one never fails, and
what it answers is a patch. -/
theorem differences_patches (hleft : left.WellFormed) (hright : right.WellFormed) :
    ∃ patch, left.differences right = .ok patch ∧ left.Patches right patch := by
  refine ⟨differing left right, hleft.differences_eq hright, ?_⟩
  exact {
    symmetric := by
      rw [differing_comm]
      exact hright.differences_eq hleft
    ascending := (Zone.pairwise_lt_positions _).filter _
    mem_iff := by
      intro position
      rw [mem_differing, ← and_assoc]
      exact and_congr_right fun hcovers => (hleft.exists_read_ne_iff hright hcovers).symm
    eq_iff := hleft.eq_iff_differing_eq_nil hright
    turns := by
      intro hrows hcolumns
      refine ⟨_, hright.copying_eq _, hleft.carryOut_copies hright hrows hcolumns ?_ ?_⟩
      · intro position hposition
        exact (mem_differing.mp hposition).1.1
      · intro position hcovers hdiffer
        exact mem_differing.mpr ⟨⟨hcovers, hcovers.of_size_eq hrows hcolumns⟩, hdiffer⟩
    needed := by
      intro changes answers hchanges position hposition
      have hdiffers := mem_differing.mp hposition
      exact hleft.exists_reaches hchanges hdiffers.1.1 hdiffers.2 }

/-- The pantry after its second row was cleared. -/
def clearedPantry : FloorPlan := ⟨2, 2, #[.counter, .fridge, .kitchenFloor, .kitchenFloor]⟩

/-- A longer and lower plan that agrees with the pantry at its first tile. -/
def corridor : FloorPlan := ⟨1, 3, #[.counter, .door, .fridge]⟩

theorem differences_patches_pantry :
    pantry.WellFormed ∧ clearedPantry.WellFormed ∧ corridor.WellFormed ∧
      pantry.differences clearedPantry = .ok [⟨1, 0⟩, ⟨1, 1⟩] ∧
      pantry.Patches clearedPantry [⟨1, 0⟩, ⟨1, 1⟩] ∧
      (∃ changes, clearedPantry.copying [⟨1, 0⟩, ⟨1, 1⟩] = .ok changes ∧
        pantry.carryOut changes = .ok (clearedPantry, [true, true])) ∧
      pantry.differences corridor = .ok [⟨0, 1⟩] ∧ pantry.Patches corridor [⟨0, 1⟩] := by
  have hpantry : pantry.WellFormed := ⟨by decide, by decide⟩
  have hcleared : clearedPantry.WellFormed := ⟨by decide, by decide⟩
  have hcorridor : corridor.WellFormed := ⟨by decide, by decide⟩
  obtain ⟨patch, hpatch, hpatches⟩ := differences_patches hpantry hcleared
  obtain ⟨shared, hshared, hsharedPatches⟩ := differences_patches hpantry hcorridor
  have hfound : pantry.differences clearedPantry = .ok [⟨1, 0⟩, ⟨1, 1⟩] := rfl
  have hfoundShared : pantry.differences corridor = .ok [⟨0, 1⟩] := rfl
  obtain rfl := Except.ok.inj (hpatch.symm.trans hfound)
  obtain rfl := Except.ok.inj (hshared.symm.trans hfoundShared)
  exact ⟨hpantry, hcleared, hcorridor, hfound, hpatches, hpatches.turns rfl rfl,
    hfoundShared, hsharedPatches⟩

end FloorPlan

end DishPlanner

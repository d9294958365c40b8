import DishPlanner.Proofs.Floor.Scan

/-!
# Walks through a plan

A walk goes through a list of positions, reads the tile at each and keeps the
positions that pass a test.  The free floor of a kitchen is what a walk through
the kitchen finds, however far the kitchen reaches beyond the plan, and also what
a walk through the whole plan finds that asks for the kitchen on the way.
-/

namespace DishPlanner

theorem filterAuxM_eq_ok {α ε : Type} {visit : α → Except ε Bool} {keep : α → Bool}
    (hvisit : ∀ item, visit item = .ok (keep item)) (items found : List α) :
    List.filterAuxM visit items found = .ok ((items.filter keep).reverse ++ found) := by
  induction items generalizing found with
  | nil => rfl
  | cons item items ih =>
      rw [List.filterAuxM, hvisit]
      change List.filterAuxM visit items (cond (keep item) (item :: found) found) = _
      rw [ih]
      cases hkeep : keep item with
      | true => simp [hkeep]
      | false => simp [hkeep]

/-- Tests that never fail keep what a filter keeps. -/
theorem filterM_eq_ok {α ε : Type} {visit : α → Except ε Bool} {keep : α → Bool}
    (hvisit : ∀ item, visit item = .ok (keep item)) (items : List α) :
    items.filterM visit = .ok (items.filter keep) := by
  rw [List.filterM, filterAuxM_eq_ok hvisit, List.append_nil]
  change Except.ok (items.filter keep).reverse.reverse = _
  rw [List.reverse_reverse]

namespace FloorPlan

variable {plan : FloorPlan} {kitchen : Zone} {occupied : Position → Bool}

/-- Every position of a plan, row by row and column by column. -/
def positions (plan : FloorPlan) : List Position :=
  (List.range plan.rows).flatMap fun row =>
    (List.range plan.columns).map fun column => ⟨row, column⟩

/-- Goes through positions in the listed order and keeps those that pass a test of
the position and of the tile that is read there. -/
def walk (plan : FloorPlan) (positions : List Position)
    (test : Position → Option Tile → Bool) : Except Fault (List Position) :=
  positions.filterM fun position => do return test position (← plan.read position)

/-- The test of a walk through a kitchen: nobody is here, and this is kitchen floor. -/
def isFree (occupied : Position → Bool) (position : Position) (tile : Option Tile) : Bool :=
  !occupied position && decide (tile = some .kitchenFloor)

theorem WellFormed.walk_eq (hplan : plan.WellFormed) (positions : List Position)
    (test : Position → Option Tile → Bool) :
    plan.walk positions test =
      .ok (positions.filter fun position => test position (plan.tileAt position)) := by
  apply filterM_eq_ok
  intro position
  rw [hplan.read_eq]
  rfl

/-- The whole plan is a zone that starts in its corner. -/
theorem positions_eq (plan : FloorPlan) :
    plan.positions = (⟨⟨0, plan.rows⟩, ⟨0, plan.columns⟩⟩ : Zone).positions := by
  simp only [positions, Zone.positions, Span.toList, Span.size, Nat.sub_zero,
    List.range_eq_range']

theorem mem_positions {position : Position} :
    position ∈ plan.positions ↔ plan.Covers position := by
  simp only [positions_eq, Zone.mem_positions, Zone.mem_def, Span.mem_def, Nat.zero_le,
    true_and, Covers]

theorem pairwise_lt_positions (plan : FloorPlan) : plan.positions.Pairwise (· < ·) := by
  rw [positions_eq]
  exact Zone.pairwise_lt_positions _

theorem isFree_eq_true {position : Position} {tile : Option Tile} :
    isFree occupied position tile = true ↔
      occupied position = false ∧ tile = some .kitchenFloor := by
  rw [isFree, Bool.and_eq_true, Bool.not_eq_true', decide_eq_true_eq]

/-- A scan in strict reading order that keeps the free floor of a kitchen is the
list of its free cells. -/
theorem eq_freeCells {scan : List Position} (hscan : scan.Pairwise (· < ·))
    (hmem : ∀ position, position ∈ scan ↔
      position ∈ kitchen ∧ isFree occupied position (plan.tileAt position) = true) :
    scan = freeCells plan kitchen occupied := by
  apply hscan.eq_of_mem_iff (pairwise_lt_freeCells plan kitchen occupied)
  intro position
  rw [hmem, mem_freeCells, isFree_eq_true]

theorem WellFormed.walk_kitchen (hplan : plan.WellFormed) (kitchen : Zone)
    (occupied : Position → Bool) :
    plan.walk kitchen.positions (isFree occupied) =
      .ok (freeCells plan kitchen occupied) := by
  rw [hplan.walk_eq]
  apply congrArg Except.ok
  apply eq_freeCells ((Zone.pairwise_lt_positions _).filter _)
  intro position
  rw [List.mem_filter, Zone.mem_positions]

theorem WellFormed.walk_plan (hplan : plan.WellFormed) (kitchen : Zone)
    (occupied : Position → Bool) :
    plan.walk plan.positions
        (fun position tile => decide (position ∈ kitchen) && isFree occupied position tile) =
      .ok (freeCells plan kitchen occupied) := by
  rw [hplan.walk_eq]
  apply congrArg Except.ok
  apply eq_freeCells (plan.pairwise_lt_positions.filter _)
  intro position
  rw [List.mem_filter, mem_positions, Bool.and_eq_true, decide_eq_true_eq]
  constructor
  · exact And.right
  · intro hfree
    -- What shows kitchen floor lies inside the plan.
    have hfloor := (isFree_eq_true.mp hfree.2).2
    exact ⟨covers_of_tileAt_eq_some hfloor, hfree⟩

/-- The free floor of a kitchen is found by a walk through the kitchen and by a
walk through the plan alike; it comes in strict reading order and misses no cell. -/
theorem freeFloor_walks (hplan : plan.WellFormed) (kitchen : Zone)
    (occupied : Position → Bool) :
    ∃ cells, freeFloor plan kitchen occupied = .ok cells ∧
      plan.walk kitchen.positions (isFree occupied) = .ok cells ∧
      plan.walk plan.positions (fun position tile =>
        decide (position ∈ kitchen) && isFree occupied position tile) = .ok cells ∧
      cells.Pairwise (· < ·) ∧ cells.Nodup ∧
      ∀ position, position ∈ cells ↔
        position ∈ kitchen ∧ occupied position = false ∧
          plan.read position = .ok (some .kitchenFloor) := by
  refine ⟨freeCells plan kitchen occupied, hplan.freeFloor_eq kitchen occupied,
    hplan.walk_kitchen kitchen occupied, hplan.walk_plan kitchen occupied,
    pairwise_lt_freeCells plan kitchen occupied, nodup_freeCells plan kitchen occupied, ?_⟩
  intro position
  rw [mem_freeCells, hplan.read_eq, Except.ok.injEq]

/-- A plan with a tile that only looks like kitchen floor. -/
def galley : FloorPlan :=
  ⟨2, 3, #[.kitchenFloor, .other 'K', .kitchenFloor, .wall, .kitchenFloor, .kitchenFloor]⟩

/-- The kitchen reaches far beyond the galley, where its first column is missing. -/
def galleyKitchen : Zone := ⟨⟨0, wordCount - 1⟩, ⟨1, wordCount - 1⟩⟩

theorem freeFloor_walks_galley :
    galley.WellFormed ∧
      ∃ cells, freeFloor galley galleyKitchen (fun position => position = ⟨1, 1⟩) = .ok cells ∧
        galley.walk galleyKitchen.positions (isFree fun position => position = ⟨1, 1⟩) =
          .ok cells ∧
        cells = [⟨0, 2⟩, ⟨1, 2⟩] := by
  have hplan : galley.WellFormed := ⟨by decide, by decide⟩
  obtain ⟨cells, hcells, hkitchen, hwalk, -⟩ :=
    freeFloor_walks hplan galleyKitchen fun position => position = ⟨1, 1⟩
  refine ⟨hplan, cells, hcells, hkitchen, ?_⟩
  have hfound : galley.walk galley.positions (fun position tile =>
      decide (position ∈ galleyKitchen) &&
        isFree (fun position => position = ⟨1, 1⟩) position tile) =
      .ok [⟨0, 2⟩, ⟨1, 2⟩] := by decide +kernel
  exact Except.ok.inj (hwalk.symm.trans hfound)

end FloorPlan

end DishPlanner

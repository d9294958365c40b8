import DishPlanner.Kitchen.FreeFloor
import DishPlanner.Proofs.Floor.Access
import DishPlanner.Proofs.Floor.ReadingOrder

/-!
# Scans of well-formed plans

A scan of a well-formed plan never stops early, so what it finds is a filter of
the positions that it visits.  The free floor of a kitchen and the differences
of two plans are such filters, in strict reading order.
-/

namespace DishPlanner

/-- A loop that never fails and keeps what passes a test is a filter. -/
private theorem foldlM_push_eq_filter {α ε : Type} (keep : α → Bool)
    {step : Array α → α → Except ε (Array α)}
    (hstep : ∀ found item,
      step found item = .ok (if keep item then found.push item else found))
    (items : List α) (found : Array α) :
    items.foldlM step found = .ok (found ++ (items.filter keep).toArray) := by
  induction items generalizing found with
  | nil => simp [pure, Except.pure]
  | cons item items ih =>
      rw [List.foldlM_cons, hstep]
      change items.foldlM step _ = _
      rw [ih]
      by_cases hkeep : keep item
      · simp [hkeep]
      · simp [hkeep]

/-- A loop that fails at none of its items is a map. -/
theorem mapM_eq_ok {α β ε : Type} {visit : α → Except ε β} {result : α → β} {items : List α}
    (hitems : ∀ item ∈ items, visit item = .ok (result item)) :
    items.mapM visit = .ok (items.map result) := by
  induction items with
  | nil => rfl
  | cons item items ih =>
      obtain ⟨hitem, hrest⟩ := List.forall_mem_cons.mp hitems
      rw [List.mapM_cons, hitem, ih hrest]
      rfl

namespace FloorPlan

variable {plan left right : FloorPlan}

theorem WellFormed.select_eq (hplan : plan.WellFormed) (zone : Zone)
    (admitted : Position → Bool) (wanted : Tile → Bool) :
    plan.select zone admitted wanted =
      .ok ((zone.clip plan.rows plan.columns).positions.filter fun position =>
        admitted position && (plan.tileAt position).any wanted) := by
  rw [select, Zone.visit_eq_foldlM, foldlM_push_eq_filter fun position =>
    admitted position && (plan.tileAt position).any wanted]
  · simp [bind, Except.bind, pure, Except.pure]
  · intro found position
    by_cases hadmitted : admitted position
    · simp only [hadmitted, if_true, hplan.read_eq, Bool.true_and]
      rfl
    · simp only [hadmitted, Bool.false_eq_true, if_false, Bool.false_and]
      rfl

/-- The part that two plans share. -/
def sharedZone (left right : FloorPlan) : Zone :=
  ⟨⟨0, min left.rows right.rows⟩, ⟨0, min left.columns right.columns⟩⟩

theorem mem_sharedZone {position : Position} :
    position ∈ sharedZone left right ↔ left.Covers position ∧ right.Covers position := by
  simp only [sharedZone, Zone.mem_def, Span.mem_def, Covers]
  omega

theorem WellFormed.differences_eq (hleft : left.WellFormed) (hright : right.WellFormed) :
    left.differences right =
      .ok ((sharedZone left right).positions.filter fun position =>
        left.tileAt position ≠ right.tileAt position) := by
  rw [differences]
  simp only [Zone.visit_eq_foldlM]
  rw [foldlM_push_eq_filter fun position =>
    decide (left.tileAt position ≠ right.tileAt position)]
  · simp [bind, Except.bind, pure, Except.pure, sharedZone]
  · intro found position
    simp only [hleft.read_eq, hright.read_eq, bind, Except.bind, pure, Except.pure]
    by_cases hsame : left.tileAt position = right.tileAt position
    · simp [hsame]
    · simp [hsame]

/-- Plans of one size that show different tiles at the listed positions only have
these positions as their differences, in reading order. -/
theorem WellFormed.differences_eq_sort (hleft : left.WellFormed) (hright : right.WellFormed)
    (hrows : left.rows = right.rows) (hcolumns : left.columns = right.columns)
    {positions : List Position} (hnodup : positions.Nodup)
    (hpositions : ∀ position,
      left.tileAt position ≠ right.tileAt position ↔ position ∈ positions) :
    left.differences right = .ok (Position.sort positions) := by
  rw [hleft.differences_eq hright]
  apply congrArg Except.ok
  apply Position.eq_sort_of_mem_iff ((Zone.pairwise_lt_positions _).filter _) hnodup
  intro position
  rw [List.mem_filter, decide_eq_true_eq, hpositions, Zone.mem_positions, mem_sharedZone]
  constructor
  · exact And.right
  · intro hposition
    have hcovers : left.Covers position ↔ right.Covers position := by
      rw [Covers, Covers, hrows, hcolumns]
    -- Outside both plans nothing is shown, so nothing differs.
    have hinside : left.Covers position := by
      by_contra houtside
      apply (hpositions position).mpr hposition
      rw [tileAt, tileAt, if_neg houtside, if_neg fun h => houtside (hcovers.mpr h)]
    exact ⟨⟨hinside, hcovers.mp hinside⟩, hposition⟩

end FloorPlan

/-- The cells that a dish may stand on, on a plan that can be scanned. -/
def freeCells (plan : FloorPlan) (kitchen : Zone) (occupied : Position → Bool) :
    List Position :=
  (kitchen.clip plan.rows plan.columns).positions.filter fun position =>
    !occupied position && (plan.tileAt position).any (· = .kitchenFloor)

variable {plan : FloorPlan} {kitchen : Zone} {occupied : Position → Bool}

theorem FloorPlan.WellFormed.freeFloor_eq (hplan : plan.WellFormed) (kitchen : Zone)
    (occupied : Position → Bool) :
    freeFloor plan kitchen occupied = .ok (freeCells plan kitchen occupied) :=
  hplan.select_eq kitchen _ _

theorem pairwise_lt_freeCells (plan : FloorPlan) (kitchen : Zone)
    (occupied : Position → Bool) : (freeCells plan kitchen occupied).Pairwise (· < ·) :=
  (Zone.pairwise_lt_positions _).filter _

theorem nodup_freeCells (plan : FloorPlan) (kitchen : Zone) (occupied : Position → Bool) :
    (freeCells plan kitchen occupied).Nodup :=
  (pairwise_lt_freeCells plan kitchen occupied).nodup

theorem mem_freeCells {position : Position} :
    position ∈ freeCells plan kitchen occupied ↔
      position ∈ kitchen ∧ occupied position = false ∧
        plan.tileAt position = some .kitchenFloor := by
  simp only [freeCells, List.mem_filter, Zone.mem_positions, Zone.mem_clip,
    Bool.and_eq_true, Bool.not_eq_true', Option.any_eq_true, decide_eq_true_eq,
    exists_eq_right]
  constructor
  · rintro ⟨⟨hkitchen, -⟩, hfree, hfloor⟩
    exact ⟨hkitchen, hfree, hfloor⟩
  · rintro ⟨hkitchen, hfree, hfloor⟩
    exact ⟨⟨hkitchen, FloorPlan.covers_of_tileAt_eq_some hfloor⟩, hfree, hfloor⟩

end DishPlanner

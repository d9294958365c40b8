import DishPlanner.Proofs.Floor.ReadingOrder
import DishPlanner.Floor.Plan

/-!
# Zones inside plans

Whether a zone lies inside a plan is judged by the ends of its spans alone.  For a
zone with a cell this is the same as looking at every cell, because its last cell
stands at both ends; a zone without cells may end anywhere.

With the list that scans follow, the test whether a position lies in the zone and the
area, this makes four accounts of one zone.  They agree for all spans, also where a span
ends before it starts or where the area is no word.
-/

namespace DishPlanner

/-- The area of a zone is zero exactly if the zone has no cell. -/
theorem Zone.size_mul_size_eq_zero_iff {zone : Zone} :
    zone.rows.size * zone.columns.size = 0 ↔ ∀ position, position ∉ zone := by
  rw [← Zone.length_positions, List.length_eq_zero_iff, List.eq_nil_iff_forall_not_mem]
  simp only [Zone.mem_positions]

/-- A zone with a cell has a last cell. -/
theorem Zone.last_mem {zone : Zone} (hcell : ∃ position, position ∈ zone) :
    (⟨zone.rows.stop - 1, zone.columns.stop - 1⟩ : Position) ∈ zone := by
  obtain ⟨position, hrow, hcolumn⟩ := hcell
  rw [Span.mem_def] at hrow hcolumn
  rw [Zone.mem_def, Span.mem_def, Span.mem_def]
  dsimp only
  omega

namespace FloorPlan

variable {plan : FloorPlan} {zone : Zone}

theorem Contains.covers (hzone : plan.Contains zone) {position : Position}
    (hposition : position ∈ zone) : plan.Covers position :=
  ⟨Nat.lt_of_lt_of_le hposition.1.2 hzone.1, Nat.lt_of_lt_of_le hposition.2.2 hzone.2⟩

/-- A zone with a cell is contained in a plan exactly if the plan covers all its cells. -/
theorem contains_iff_forall_covers (hcell : ∃ position, position ∈ zone) :
    plan.Contains zone ↔ ∀ position ∈ zone, plan.Covers position := by
  constructor
  · intro hzone position
    exact hzone.covers
  · intro hcovers
    obtain ⟨hrow, hcolumn⟩ := hcovers _ (Zone.last_mem hcell)
    exact ⟨Nat.le_of_pred_lt hrow, Nat.le_of_pred_lt hcolumn⟩

end FloorPlan

/-! ## Agreement of all accounts -/

namespace Zone

variable {zone : Zone}

theorem area_of_lt (hfits : zone.positions.length < wordCount) :
    zone.area = .ok zone.positions.length := by
  rw [length_positions] at hfits ⊢
  exact checkedMul_of_lt hfits

theorem area_of_le (hlarge : wordCount ≤ zone.positions.length) :
    zone.area = .error .productTooLarge := by
  rw [length_positions] at hlarge
  exact checkedMul_of_le hlarge

/-- All accounts of a zone agree with the list of its positions: the list is in strict
reading order, the zone holds the listed positions and no others, the sizes of its spans
multiply to their number, which is the area unless it is no word, and a plan that contains
the zone covers all of them.  A zone with a position is contained in no other plan. -/
structure Coherent (zone : Zone) : Prop where
  ordered : zone.positions.Pairwise (· < ·)
  mem_iff : ∀ position, position ∈ zone.positions ↔ position ∈ zone
  length_eq : zone.positions.length = zone.rows.size * zone.columns.size
  area_eq_ok : zone.positions.length < wordCount → zone.area = .ok zone.positions.length
  area_eq_error : wordCount ≤ zone.positions.length → zone.area = .error .productTooLarge
  covers_of_contains : ∀ plan : FloorPlan, plan.Contains zone →
    ∀ position ∈ zone.positions, plan.Covers position
  contains_of_covers : ∀ plan : FloorPlan, zone.positions ≠ [] →
    (∀ position ∈ zone.positions, plan.Covers position) → plan.Contains zone

/-- Every zone is coherent, whatever its spans are. -/
theorem coherent (zone : Zone) : zone.Coherent where
  ordered := zone.pairwise_lt_positions
  mem_iff _ := mem_positions
  length_eq := zone.length_positions
  area_eq_ok := area_of_lt
  area_eq_error := area_of_le
  covers_of_contains plan hplan position hposition := hplan.covers (mem_positions.mp hposition)
  contains_of_covers plan hcell hcovers := by
    obtain ⟨first, hfirst⟩ := List.exists_mem_of_ne_nil _ hcell
    refine (FloorPlan.contains_iff_forall_covers ⟨first, mem_positions.mp hfirst⟩).mpr ?_
    exact fun position hposition => hcovers position (mem_positions.mpr hposition)

-- Without a position there is nothing to cover, but the ends are still compared.
example : (⟨⟨9, 0⟩, ⟨0, 9⟩⟩ : Zone).positions = [] ∧
    ¬ (⟨1, 1, #[.wall]⟩ : FloorPlan).Contains ⟨⟨9, 0⟩, ⟨0, 9⟩⟩ := by decide

end Zone

end DishPlanner

import Mathlib.Data.List.Perm.Subperm
import DishPlanner.House.Guests
import DishPlanner.Proofs.Floor.Scan
import DishPlanner.Proofs.Floor.Store

/-!
# Where guests stand

On a well-formed plan the walkable cells of a house are one list in strict
reading order: a cell is on it if it lies in some room and can be walked on,
however often rooms overlap.  Guests are the first cells of a shuffle of that
list, so there are never more of them than the plan has tiles.
-/

namespace DishPlanner

variable {σ : Type}

namespace FloorPlan

variable {plan : FloorPlan}

/-- Different positions inside a plan are no more than its tiles. -/
theorem length_le_of_covers {positions : List Position} (hnodup : positions.Nodup)
    (hcovers : ∀ position ∈ positions, plan.Covers position) :
    positions.length ≤ plan.rows * plan.columns := by
  have hsubset : positions ⊆ (sharedZone plan plan).positions := by
    intro position hposition
    have hinside := hcovers position hposition
    exact Zone.mem_positions.mpr (mem_sharedZone.mpr ⟨hinside, hinside⟩)
  have hlength := (hnodup.subperm hsubset).length_le
  rw [Zone.length_positions] at hlength
  simpa [sharedZone, Span.size] using hlength

/-- Showing people on a well-formed plan never fails. -/
theorem WellFormed.showPeople_eq (hplan : plan.WellFormed) (people : List Position) :
    plan.showPeople people = .ok (plan.stamp people .occupant) :=
  hplan.foldlM_write (fun _ hplan position => hplan.write_eq position .occupant) people

end FloorPlan

namespace House

variable {house : House}

/-- The walkable cells of a house: the positions of its plan that lie in some room
and can be walked on. -/
def walkable (house : House) : List Position :=
  (FloorPlan.sharedZone house.plan house.plan).positions.filter fun position =>
    (house.rooms.values.any fun zone => position ∈ zone) &&
      (house.plan.tileAt position).any Tile.isWalkable

theorem pairwise_lt_walkable (house : House) : house.walkable.Pairwise (· < ·) :=
  (Zone.pairwise_lt_positions _).filter _

theorem nodup_walkable (house : House) : house.walkable.Nodup :=
  (pairwise_lt_walkable house).nodup

theorem mem_walkable {position : Position} :
    position ∈ house.walkable ↔
      (∃ zone ∈ house.rooms.values, position ∈ zone) ∧
        (house.plan.tileAt position).any Tile.isWalkable := by
  simp only [walkable, List.mem_filter, Zone.mem_positions, FloorPlan.mem_sharedZone, and_self,
    Bool.and_eq_true, List.any_eq_true, decide_eq_true_eq]
  constructor
  · exact And.right
  · intro hwalkable
    obtain ⟨tile, htile, -⟩ := Option.any_eq_true _ _ |>.mp hwalkable.2
    exact ⟨FloorPlan.covers_of_tileAt_eq_some htile, hwalkable⟩

/-- Rooms are searched one by one, but sorting and dropping what is found twice
leaves the walkable cells of the whole plan. -/
theorem walkableCells_eq (hplan : house.plan.WellFormed) :
    house.walkableCells = .ok house.walkable := by
  have hzones : ∀ zone ∈ house.rooms.values,
      house.plan.select zone (fun _ => true) Tile.isWalkable =
        .ok ((zone.clip house.plan.rows house.plan.columns).positions.filter fun position =>
          (house.plan.tileAt position).any Tile.isWalkable) := by
    intro zone _
    rw [hplan.select_eq]
    simp
  rw [walkableCells, mapM_eq_ok hzones]
  apply congrArg Except.ok
  have hsorted := Position.pairwise_lt_eraseReps (Position.pairwise_le_sort
    (house.rooms.values.map fun zone =>
      (zone.clip house.plan.rows house.plan.columns).positions.filter fun position =>
        (house.plan.tileAt position).any Tile.isWalkable).flatten)
  apply hsorted.eq_of_mem_iff (pairwise_lt_walkable house)
  intro position
  simp only [mem_walkable, Position.mem_eraseReps, Position.mem_sort, List.mem_flatten,
    List.mem_map, exists_exists_and_eq_and, List.mem_filter, Zone.mem_positions, Zone.mem_clip]
  constructor
  · rintro ⟨zone, hzone, ⟨hposition, -⟩, hwalkable⟩
    exact ⟨⟨zone, hzone, hposition⟩, hwalkable⟩
  · rintro ⟨⟨zone, hzone, hposition⟩, hwalkable⟩
    obtain ⟨tile, htile, -⟩ := Option.any_eq_true _ _ |>.mp hwalkable
    exact ⟨zone, hzone, ⟨hposition, FloorPlan.covers_of_tileAt_eq_some htile⟩, hwalkable⟩

theorem covers_of_mem_walkable {position : Position} (hposition : position ∈ house.walkable) :
    house.plan.Covers position := by
  obtain ⟨tile, htile, -⟩ := Option.any_eq_true _ _ |>.mp (mem_walkable.mp hposition).2
  exact FloorPlan.covers_of_tileAt_eq_some htile

theorem length_walkable_le (hplan : house.plan.WellFormed) :
    house.walkable.length ≤ house.plan.tiles.size := by
  rw [hplan.size_tiles]
  exact FloorPlan.length_le_of_covers (nodup_walkable house) fun _ => covers_of_mem_walkable

/-- The guests for given swaps of the walkable cells. -/
def guests (house : House) (swaps : List Nat) (count : Nat) : List Position :=
  (shuffled swaps house.walkable).take count

theorem length_guests_lt (hplan : house.plan.WellFormed)
    (hsize : house.plan.tiles.size < memoryLimit) (swaps : List Nat) (count : Nat) :
    (house.guests swaps count).length < memoryLimit := by
  have hwalkable := length_walkable_le hplan
  rw [guests, List.length_take, length_shuffled]
  omega

/-- Seating guests draws swaps of the walkable cells, and all else is a function
of them. -/
theorem seatGuests_eq (hplan : house.plan.WellFormed) (source : Source σ) (count : Nat)
    (state : σ) :
    house.seatGuests source count state =
      (source.drawSwaps house.walkable.length state).map fun drawn =>
        (.ok (house.guests drawn.1 count), drawn.2) := by
  rw [seatGuests, walkableCells_eq hplan]
  simp only [Source.shuffle, Draw.bind_apply]
  cases source.drawSwaps house.walkable.length state with
  | none => rfl
  | some drawn => rfl

end House

end DishPlanner

import Mathlib.Data.List.Forall2
import Mathlib.Data.List.ReduceOption
import DishPlanner.Proofs.Dinner.Refusal
import DishPlanner.Proofs.Floor.Containment
import DishPlanner.Proofs.Inspection

/-!
# What inspections find

An inspection of a well-formed plan names a missing kitchen, then every room that
has no cell or a cell outside, and then every person outside.  Rooms are judged by
their ends, which comes to the same as judging them cell by cell.  A house in
which no error is found is ready: its rooms and its people are inside the plan,
and a dinner is prepared as soon as the draws end.
-/

namespace DishPlanner

variable {σ : Type} {plan : FloorPlan} {zone : Zone}

/-- The zone has a cell, and the plan covers all its cells. -/
def FloorPlan.Houses (plan : FloorPlan) (zone : Zone) : Prop :=
  (∃ position, position ∈ zone) ∧ ∀ position ∈ zone, plan.Covers position

/-- A room is housed if it does not reach beyond the plan and its area is not zero. -/
theorem FloorPlan.houses_iff :
    plan.Houses zone ↔
      plan.Contains zone ∧ zone.rows.size * zone.columns.size ≠ 0 := by
  rw [Houses, ne_eq, Zone.size_mul_size_eq_zero_iff, not_forall_not, and_comm]
  exact and_congr_left fun hcell => (contains_iff_forall_covers hcell).symm

instance (plan : FloorPlan) (zone : Zone) : Decidable (plan.Houses zone) :=
  decidable_of_iff' _ FloorPlan.houses_iff

/-- What is wrong with a room, when something is. -/
def roomIssue (plan : FloorPlan) (room : Char × Zone) : Problem :=
  if plan.Contains room.2 then .emptyRoom room.1
  else .roomOutside room.1 room.2 plan.rows plan.columns

theorem roomProblem_eq (plan : FloorPlan) (room : Char × Zone) :
    roomProblem plan room.1 room.2 =
      if ¬ plan.Houses room.2 then some (roomIssue plan room) else none := by
  rw [roomProblem, roomIssue]
  by_cases hinside : plan.Contains room.2
  · by_cases harea : room.2.rows.size * room.2.columns.size = 0
    · simp [FloorPlan.houses_iff, hinside, harea]
    · simp [FloorPlan.houses_iff, hinside, harea]
  · simp [FloorPlan.houses_iff, hinside]

theorem FloorPlan.WellFormed.isNone_tileAt_iff (hplan : plan.WellFormed) (position : Position) :
    (plan.tileAt position).isNone = true ↔ ¬ plan.Covers position := by
  constructor
  · intro hnone hcovers
    obtain ⟨tile, htile⟩ := hplan.exists_tileAt hcovers
    rw [htile] at hnone
    cases hnone
  · intro houtside
    rw [FloorPlan.tileAt, if_neg houtside]
    rfl

/-- Problems that are looked for at every item are found at the flawed ones. -/
theorem reduceOption_map_ite {α β : Type} (flawed : α → Prop) [DecidablePred flawed]
    (issue : α → β) (items : List α) :
    (items.map fun item => if flawed item then some (issue item) else none).reduceOption =
      (items.filter fun item => flawed item).map issue := by
  induction items with
  | nil => rfl
  | cons item items ih =>
      by_cases hitem : flawed item
      · rw [List.map_cons, if_pos hitem, List.reduceOption_cons_of_some, ih,
          List.filter_cons_of_pos (by simpa using hitem), List.map_cons]
      · rw [List.map_cons, if_neg hitem, List.reduceOption_cons_of_none, ih,
          List.filter_cons_of_neg (by simpa using hitem)]

/-- The people outside are named in the listed order, numbered from 1. -/
theorem reduceOption_personProblem (hplan : plan.WellFormed) (people : List Position) :
    (people.zipIdx.map fun numbered =>
        personProblem plan numbered.1 numbered.2).reduceOption =
      ((people.zipIdx 1).filter fun numbered => ¬ plan.Covers numbered.1).map fun numbered =>
        .personOutside numbered.2 numbered.1 := by
  have hperson : (fun numbered : Position × Nat => personProblem plan numbered.1 numbered.2) =
      fun numbered => if ¬ plan.Covers numbered.1
        then some (.personOutside (numbered.2 + 1) numbered.1) else none := by
    funext numbered
    rw [personProblem]
    exact if_congr (hplan.isNone_tileAt_iff _) rfl rfl
  have hnumbers : people.zipIdx 1 = people.zipIdx.map fun numbered =>
      (numbered.1, numbered.2 + 1) := List.zipIdx_succ
  rw [hperson, reduceOption_map_ite, hnumbers, List.filter_map, List.map_map]
  rfl

theorem reduceOption_roomProblem (plan : FloorPlan) (rooms : Rooms) :
    (rooms.entries.map fun room => roomProblem plan room.1 room.2).reduceOption =
      (rooms.entries.filter fun room => ¬ plan.Houses room.2).map (roomIssue plan) := by
  have hroom : (fun room : Char × Zone => roomProblem plan room.1 room.2) =
      fun room => if ¬ plan.Houses room.2 then some (roomIssue plan room) else none :=
    funext (roomProblem_eq plan)
  rw [hroom, reduceOption_map_ite]

/-! ## What is found and what it promises -/

variable {rooms : Rooms} {people : List Position} {settings : Settings}

theorem inspectKitchen_eq (rooms : Rooms) (settings : Settings) :
    inspectKitchen rooms settings =
      if rooms.find? settings.kitchenKey = none then [.noKitchen settings.kitchenKey]
      else [] := by
  rw [inspectKitchen, OrderedMap.contains_eq_isSome_find?]
  cases rooms.find? settings.kitchenKey with
  | none => rfl
  | some kitchen => rfl

/-- In a house with a kitchen, whose plan houses its rooms and covers its people, nothing
is wrong. -/
theorem problems_eq_nil {kitchen : Zone} (hplan : plan.WellFormed)
    (hkitchen : rooms.find? settings.kitchenKey = some kitchen)
    (hrooms : ∀ room ∈ rooms.entries, plan.Houses room.2)
    (hpeople : ∀ position ∈ people, plan.Covers position) :
    problems plan rooms people settings = [] := by
  have hhoused : (rooms.entries.filter fun room => ¬ plan.Houses room.2) = [] := by
    rw [List.filter_eq_nil_iff]
    intro room hroom
    simpa using hrooms room hroom
  have hinside : ((people.zipIdx 1).filter fun numbered => ¬ plan.Covers numbered.1) = [] := by
    rw [List.filter_eq_nil_iff]
    intro numbered hnumbered
    simpa using hpeople _ (List.fst_mem_of_mem_zipIdx hnumbered)
  rw [problems, reduceOption_roomProblem, reduceOption_personProblem hplan, hhoused, hinside,
    inspectKitchen_eq, hkitchen]
  rfl

end DishPlanner

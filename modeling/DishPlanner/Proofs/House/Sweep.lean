import DishPlanner.House.Sweep
import DishPlanner.Proofs.Dinner.Balance
import DishPlanner.Proofs.Dinner.Frame
import DishPlanner.Proofs.House.Guests
import DishPlanner.Proofs.Roll.Choices

/-!
# Sweeps find nothing

A sweep examines dinners by seven rules that are checked without looking at how
dinners are prepared.  Every prepared dinner obeys all of them, so a round of a
sweep is its draws and a flawless finding, and the findings of any number of
rounds are flawless.
-/

namespace DishPlanner

variable {σ : Type}

/-- A list without repetition has nothing to erase. -/
theorem eraseDups_of_nodup {α : Type} [DecidableEq α] {items : List α} (hitems : items.Nodup) :
    items.eraseDups = items := by
  induction items with
  | nil => rfl
  | cons item items ih =>
      obtain ⟨hitem, hrest⟩ := List.nodup_cons.mp hitems
      have hkept : (items.filter fun other => !other == item) = items := by
        apply List.filter_eq_self.mpr
        intro other hother
        have hdifferent : other ≠ item := fun hequal => hitem (hequal ▸ hother)
        simp [hdifferent]
      rw [List.eraseDups_cons, hkept, ih hrest]

namespace Findings

/-- A number of dinners that break no rule. -/
def flawless (dinners : Nat) : Findings := { none with dinners }

theorem flawless_add (first second : Nat) :
    (flawless first).add (flawless second) = flawless (first + second) := rfl

end Findings

/-! ## The seven rules -/

section Rules

variable {house : House} {kitchen : Zone} {people : List Position} {source : Source σ}
  {draws : DinnerDraws} {state rest : σ}

/-- The persons of a drawn roll are numbered from 1 on. -/
theorem keys_of_drawDinner {cells : Nat}
    (hdraws : drawDinner source people.length cells state = some (draws, rest)) :
    draws.roll.keys = List.range' 1 people.length := by
  obtain ⟨middle, hroll⟩ := exists_assign_of_drawDinner hdraws
  obtain ⟨diets, hlength, hdiets⟩ := Roll.assign_eq_some hroll
  rw [hdiets, Roll.keys_ofDiets, hlength]

theorem not_missing_of_drawDinner {cells : Nat}
    (hdraws : drawDinner source people.length cells state = some (draws, rest)) :
    ¬ (2 ≤ people.length ∧
      (draws.roll.count .vegan = 0 ∨ draws.roll.count .nonVegetarian = 0)) := by
  obtain ⟨middle, hroll⟩ := exists_assign_of_drawDinner hdraws
  rintro ⟨hpersons, hmissing⟩
  have hvegans := Roll.count_pos_of_assign hpersons hroll .vegan
  have hothers := Roll.count_pos_of_assign hpersons hroll .nonVegetarian
  omega

/-- A dish of a dinner is found on free kitchen floor. -/
theorem isWrongCell_eq_false (hplan : house.plan.WellFormed) {position : Position}
    (hposition : position ∈ freeCells house.plan kitchen people.contains) :
    house.isWrongCell kitchen people position = .ok false := by
  obtain ⟨hkitchen, hfree, hfloor⟩ := mem_freeCells.mp hposition
  have hallowed : ¬ (position ∉ kitchen ∨ people.contains position = true) := by
    rw [hfree, not_or, not_not]
    exact ⟨hkitchen, Bool.false_ne_true⟩
  rw [House.isWrongCell, if_neg hallowed, hplan.read_eq, hfloor]
  rfl

/-- The changes between two plans are found to be the positions that were changed. -/
theorem all_contains_sort (positions : List Position) :
    ((Position.sort positions).all positions.contains &&
      positions.all (Position.sort positions).contains) = true := by
  simp

theorem not_excess (draws : DinnerDraws) (plan : FloorPlan) (cells : List Position) :
    let tally := Tally.of draws.roll (draws.dinner plan cells).servings
    ¬ (tally.veganCount < tally.veganDishCount ∨
      tally.nonVegetarianCount < tally.nonVegetarianDishCount) := by
  have hvegans := draws.count_dishes_dinner plan cells .vegan
  have hothers := draws.count_dishes_dinner plan cells .nonVegetarian
  simp only [Tally.of, length_dishPositions, Roll.length_holders]
  omega

/-- Every drawn dinner is flawless. -/
theorem examine_dinner (hplan : house.plan.WellFormed)
    (hdraws : drawDinner source people.length
      (freeCells house.plan kitchen people.contains).length state = some (draws, rest)) :
    house.examine kitchen people
        (draws.dinner house.plan (freeCells house.plan kitchen people.contains)) =
      .ok (.flawless 1) := by
  have hdishes := length_dishes_of_drawDinner hdraws
  have hfills := draws.fills_dinner hplan kitchen people.contains hdishes
  have hserved := draws.servedOn_dinner house.plan kitchen people.contains
  generalize hdinner : draws.dinner house.plan
    (freeCells house.plan kitchen people.contains) = dinner at hfills hserved
  have hroll : dinner.roll = draws.roll := by rw [← hdinner]; rfl
  have hcells : ∀ position ∈ dinner.servings.map Serving.position,
      house.isWrongCell kitchen people position = .ok false := by
    intro position hposition
    obtain ⟨serving, hserving, rfl⟩ := List.mem_map.mp hposition
    subst hdinner
    exact isWrongCell_eq_false hplan (draws.position_mem_of_mem_dinner house.plan _ hserving)
  have hexcess := not_excess draws house.plan (freeCells house.plan kitchen people.contains)
  rw [hdinner] at hexcess
  rw [House.examine, mapM_eq_ok hcells, hplan.freeFloor_eq, hserved.differences_eq hplan]
  simp only [bind, Except.bind, pure, Except.pure, hroll, keys_of_drawDinner hdraws, if_true,
    if_neg (not_missing_of_drawDinner hdraws), eraseDups_of_nodup hfills.nodup_positions,
    hfills.length_servings, all_contains_sort, if_neg hexcess, Nat.sub_self]
  simp [Findings.flawless, Findings.none, List.count_replicate]

end Rules

/-! ## Rounds and sweeps -/

namespace House

variable {house : House} {kitchen : Zone} {source : Source σ}

/-- Draws for an evening: guests find their cells, and then dinner is drawn for
them with the cells that they leave free. -/
def drawEvening (source : Source σ) (house : House) (kitchen : Zone) (count : Nat) :
    Draw σ (List Position × DinnerDraws) := do
  let swaps ← source.drawSwaps house.walkable.length
  let people := house.guests swaps count
  let draws ← drawDinner source people.length
    (freeCells house.plan kitchen people.contains).length
  return (people, draws)

/-- Draws for a round of a sweep: how many guests come, and then their evening. -/
def drawRound (source : Source σ) (house : House) (kitchen : Zone) (sizes : Nat) :
    Draw σ (List Position × DinnerDraws) := do
  let crowd ← source.below .long sizes
  house.drawEvening source kitchen crowd

/-- The free cells of a kitchen that nobody stands in. -/
def capacity (house : House) (kitchen : Zone) : Nat :=
  (freeCells house.plan kitchen fun _ => false).length

theorem capacity_le (hplan : house.plan.WellFormed) (kitchen : Zone) :
    house.capacity kitchen ≤ house.plan.tiles.size := by
  rw [hplan.size_tiles]
  apply FloorPlan.length_le_of_covers (nodup_freeCells _ _ _)
  intro position hposition
  exact FloorPlan.covers_of_tileAt_eq_some (mem_freeCells.mp hposition).2.2

/-- A round is its draws, and no rule is broken whatever they are. -/
theorem serveCrowd_eq (hplan : house.plan.WellFormed)
    (hsize : house.plan.tiles.size < memoryLimit)
    (hkitchen : house.rooms.find? Rooms.kitchenKey = some kitchen) (source : Source σ)
    (sizes : Nat) (state : σ) :
    house.serveCrowd source kitchen sizes state =
      (house.drawRound source kitchen sizes state).map fun drawn =>
        (.ok (.ok (.flawless 1)), drawn.2) := by
  have hdefault : house.rooms.find? ({} : Settings).kitchenKey = some kitchen := hkitchen
  simp only [serveCrowd, drawRound, drawEvening, Draw.bind_apply]
  cases source.below .long sizes state with
  | none => rfl
  | some sized =>
      simp only [Option.bind_some, seatGuests_eq hplan]
      cases source.drawSwaps house.walkable.length sized.2 with
      | none => rfl
      | some seated =>
          have hpeople := length_guests_lt hplan hsize seated.1 sized.1
          simp only [Option.map_some, Option.bind_some, Draw.bind_apply,
            hplan.prepare_eq hdefault hpeople]
          generalize house.guests seated.1 sized.1 = people
          cases hdraws : drawDinner source people.length
              (freeCells house.plan kitchen people.contains).length seated.2 with
          | none => rfl
          | some drawn =>
              simp only [Option.map_some, Option.bind_some, examine_dinner hplan hdraws]
              rfl

theorem sweepOnce_eq (hplan : house.plan.WellFormed)
    (hsize : house.plan.tiles.size < memoryLimit)
    (hkitchen : house.rooms.find? Rooms.kitchenKey = some kitchen) (source : Source σ)
    (state : σ) :
    house.sweepOnce source kitchen (house.capacity kitchen) state =
      (house.drawRound source kitchen (house.capacity kitchen + 6) state).map fun drawn =>
        (.ok (.ok (.flawless 1)), drawn.2) := by
  have hcapacity := Nat.lt_of_le_of_lt (capacity_le hplan kitchen) hsize
  have hsizes : house.capacity kitchen + 6 < wordCount := by
    rw [memoryLimit] at hcapacity
    rw [wordCount]
    omega
  rw [sweepOnce, checkedAdd_of_lt hsizes]
  exact serveCrowd_eq hplan hsize hkitchen source _ state

variable {start : Nat → σ}

/-- Flawless rounds add up, from any seed on, as long as their draws end. -/
theorem sweepFrom_eq {capacity : Nat} {α : Type} {round : Draw σ α}
    (hround : ∀ state, house.sweepOnce source kitchen capacity state =
      (round state).map fun drawn => (.ok (.ok (.flawless 1)), drawn.2))
    (remaining seed found : Nat) :
    house.sweepFrom source start kitchen capacity remaining seed (.flawless found) [] =
      if ∀ later < remaining, (round (start (seed + later))).isSome then
        some (.ok (.flawless (found + remaining), []))
      else none := by
  induction remaining generalizing seed found with
  | zero => simp [sweepFrom]
  | succ remaining ih =>
      rw [sweepFrom, hround]
      simp only [Nat.forall_lt_succ_left, Nat.add_zero]
      cases round (start seed) with
      | none => simp
      | some drawn =>
          simp only [Option.map_some, Findings.flawless_add, ih, Option.isSome_some, true_and,
            Nat.add_assoc, Nat.add_comm 1]

/-- The draws of every round of a sweep come to an end. -/
def RoundsEnd (source : Source σ) (start : Nat → σ) (house : House) (kitchen : Zone) : Prop :=
  ∀ seed < sweepSeeds,
    (house.drawRound source kitchen (house.capacity kitchen + 6) (start seed)).isSome

instance (source : Source σ) (start : Nat → σ) (house : House) (kitchen : Zone) :
    Decidable (house.RoundsEnd source start kitchen) :=
  inferInstanceAs (Decidable (∀ seed < sweepSeeds, _))

/-- A sweep whose draws end refuses no dinner and counts no broken rule. -/
theorem sweep_eq (hplan : house.plan.WellFormed)
    (hsize : house.plan.tiles.size < memoryLimit)
    (hkitchen : house.rooms.find? Rooms.kitchenKey = some kitchen) :
    house.sweep source start =
      if house.RoundsEnd source start kitchen then
        some (.ok (Findings.flawless sweepSeeds).checks)
      else none := by
  have hnone : Findings.none = .flawless 0 := rfl
  have hfound : house.sweepFrom source start kitchen (house.capacity kitchen) sweepSeeds 0
      (.flawless 0) [] =
        if house.RoundsEnd source start kitchen then some (.ok (.flawless sweepSeeds, []))
        else none := by
    rw [sweepFrom_eq (sweepOnce_eq hplan hsize hkitchen source), Nat.zero_add]
    exact if_congr (by simp only [RoundsEnd, Nat.zero_add]) rfl rfl
  rw [capacity] at hfound
  rw [sweep, hkitchen]
  simp only [hplan.freeFloor_eq, hnone, hfound]
  by_cases hrounds : house.RoundsEnd source start kitchen
  · rw [if_pos hrounds, if_pos hrounds]
    rfl
  · rw [if_neg hrounds, if_neg hrounds]

end House

end DishPlanner

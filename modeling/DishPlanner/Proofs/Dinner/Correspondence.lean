import DishPlanner.Proofs.Dinner.Placement
import DishPlanner.Proofs.Draw.Shuffle

/-!
# What a dinner depends on

A dinner sees its house only through the list of free cells, and of that list
only through its length: two preparations from one random state, for equally
many people and with equally many free cells, end in the same random state with
the same diets and the same dishes, placed on the same cells when cells are
numbered in reading order.
-/

namespace DishPlanner

variable {σ : Type}

/-- A preparation on a well-formed plan that ends with a dinner. -/
structure Preparation (source : Source σ) (state : σ) where
  plan : FloorPlan
  wellFormed : plan.WellFormed
  rooms : Rooms
  people : List Position
  occupied : Position → Bool
  settings : Settings
  kitchen : Zone
  find?_kitchen : rooms.find? settings.kitchenKey = some kitchen
  /-- The free cells of the kitchen, in reading order. -/
  cells : List Position
  freeFloor_eq : freeFloor plan kitchen occupied = .ok cells
  notices : List Notice
  dinner : Dinner
  /-- The random state behind the dinner. -/
  rest : σ
  prepare_eq : prepare source plan rooms people occupied settings state =
    some (⟨notices, .ok dinner⟩, rest)

namespace Preparation

variable {source : Source σ} {state : σ}

/-- The dish with a number stands on the cell with a number. -/
def Stands (preparation : Preparation source state) (number cell : Nat) : Prop :=
  ∃ serving, preparation.dinner.servings[number]? = some serving ∧
    preparation.cells[cell]? = some serving.position

/-- Two dinners are the same up to the cells behind the numbers. -/
structure Corresponds (left right : Preparation source state) : Prop where
  roll_eq : left.dinner.roll = right.dinner.roll
  dishes_eq :
    left.dinner.servings.map Serving.dish = right.dinner.servings.map Serving.dish
  unplaced_eq : left.dinner.unplaced = right.dinner.unplaced
  rest_eq : left.rest = right.rest
  stands_iff : ∀ number cell, left.Stands number cell ↔ right.Stands number cell

theorem cells_eq (preparation : Preparation source state) :
    preparation.cells =
      freeCells preparation.plan preparation.kitchen preparation.occupied := by
  have hcells := preparation.freeFloor_eq
  rw [preparation.wellFormed.freeFloor_eq] at hcells
  exact (Except.ok.inj hcells).symm

theorem nodup_cells (preparation : Preparation source state) : preparation.cells.Nodup := by
  rw [preparation.cells_eq]
  exact nodup_freeCells _ _ _

/-- The draws of a preparation depend on nothing but two lengths. -/
theorem exists_draws (preparation : Preparation source state) :
    ∃ draws, drawDinner source preparation.people.length preparation.cells.length state =
        some (draws, preparation.rest) ∧
      preparation.dinner = draws.dinner preparation.plan preparation.cells := by
  obtain ⟨kitchen, draws, hkitchen, hdraws, hdinner⟩ :=
    preparation.wellFormed.exists_draws_of_prepare preparation.prepare_eq
  rw [preparation.find?_kitchen, Option.some.injEq] at hkitchen
  subst hkitchen
  rw [← preparation.cells_eq] at hdraws hdinner
  exact ⟨draws, hdraws, hdinner⟩

/-- Which cell a dish stands on is decided by the draws and by the number of
free cells. -/
theorem stands_iff (preparation : Preparation source state) {draws : DinnerDraws}
    (hdinner : preparation.dinner = draws.dinner preparation.plan preparation.cells)
    (number cell : Nat) :
    preparation.Stands number cell ↔
      number < draws.dishes.length ∧
        ∃ hcell : cell < preparation.cells.length,
          (shuffled draws.cellSwaps (List.finRange preparation.cells.length))[number]? =
            some ⟨cell, hcell⟩ := by
  rw [← stands_shuffled_iff preparation.nodup_cells, Stands, hdinner]
  change (∃ serving, (List.zipWith Serving.mk (shuffled draws.cellSwaps preparation.cells)
    draws.dishes)[number]? = some serving ∧ _) ↔ _
  simp only [List.getElem?_zipWith_eq_some]
  constructor
  · rintro ⟨_, ⟨position, dish, hposition, hdish, rfl⟩, hcell⟩
    exact ⟨(List.getElem?_eq_some_iff.mp hdish).1, position, hposition, hcell⟩
  · rintro ⟨hnumber, position, hposition, hcell⟩
    exact ⟨_, ⟨position, draws.dishes[number], hposition, List.getElem?_eq_getElem hnumber, rfl⟩,
      hcell⟩

/-- Preparations that draw the same, for equally many people and with equally
many free cells, correspond. -/
theorem corresponds (left right : Preparation source state)
    (hpeople : left.people.length = right.people.length)
    (hcells : left.cells.length = right.cells.length) : left.Corresponds right := by
  obtain ⟨draws, hdraws, hleft⟩ := left.exists_draws
  obtain ⟨rightDraws, hrightDraws, hright⟩ := right.exists_draws
  rw [hpeople, hcells, hrightDraws] at hdraws
  obtain ⟨rfl, hrest⟩ := Prod.mk.inj (Option.some.inj hdraws)
  refine ⟨?_, ?_, ?_, hrest.symm, ?_⟩
  · rw [hleft, hright]
    rfl
  · rw [hleft, hright, DinnerDraws.dishes_dinner, DinnerDraws.dishes_dinner, hcells]
  · rw [hleft, hright, DinnerDraws.unplaced_dinner, DinnerDraws.unplaced_dinner, hcells]
  · intro number cell
    rw [left.stands_iff hleft, right.stands_iff hright, hcells]

section

variable {plan : FloorPlan} {rooms : Rooms} {people : List Position}
  {occupied : Position → Bool} {settings : Settings} {kitchen : Zone} {notices : List Notice}
  {dinner : Dinner} {rest : σ} (hplan : plan.WellFormed)
  (hkitchen : rooms.find? settings.kitchenKey = some kitchen)
  (hprepare : prepare source plan rooms people occupied settings state =
    some (⟨notices, .ok dinner⟩, rest))

/-- A dinner that is prepared on a well-formed plan, as a preparation. -/
def ofPrepare : Preparation source state where
  plan := plan
  wellFormed := hplan
  rooms := rooms
  people := people
  occupied := occupied
  settings := settings
  kitchen := kitchen
  find?_kitchen := hkitchen
  cells := freeCells plan kitchen occupied
  freeFloor_eq := hplan.freeFloor_eq kitchen occupied
  notices := notices
  dinner := dinner
  rest := rest
  prepare_eq := hprepare

theorem cells_ofPrepare :
    (ofPrepare hplan hkitchen hprepare).cells = freeCells plan kitchen occupied := rfl

end

/-! ## The sample house and a bare hall -/

/-- Three rows of seven tiles of kitchen floor. -/
def hall : FloorPlan := ⟨3, 7, Array.replicate 21 .kitchenFloor⟩

/-- The hall is a bedroom that is larger on paper. -/
def hallBedroom : Zone := ⟨⟨0, 9⟩, ⟨0, 9⟩⟩

def hallRooms : Rooms := .ofList [(Rooms.bedroomKey, hallBedroom)]

def hallSettings : Settings := { kitchenKey := Rooms.bedroomKey }

/-- Twenty people in a corner of the hall. -/
def hallCrowd : List Position := List.replicate 20 ⟨0, 6⟩

/-- With its last column occupied the hall has as many free cells as the sample
house. -/
def hallOccupied (position : Position) : Bool := position.column = 6

theorem wellFormed_hall : hall.WellFormed := ⟨by decide +kernel, by decide⟩

theorem find?_kitchen_hall : hallRooms.find? hallSettings.kitchenKey = some hallBedroom := by
  decide

theorem exists_dinner_hall :
    ∃ notices dinner rest,
      prepare Generator.source hall hallRooms hallCrowd hallOccupied hallSettings
        House.sampleScript = some (⟨notices, .ok dinner⟩, rest) := by
  have hends : (drawDinner Generator.source hallCrowd.length
      (freeCells hall hallBedroom hallOccupied).length House.sampleScript).isSome := by
    decide +kernel
  have hcrowd : hallCrowd.length < memoryLimit := by decide
  exact wellFormed_hall.exists_dinner find?_kitchen_hall hcrowd hends

/-- The dinners in the sample house and in the hall correspond. -/
theorem corresponds_hall :
    ∃ left right : Preparation Generator.source House.sampleScript,
      left.plan = House.sample.plan ∧ right.plan = hall ∧
        left.people.length = right.people.length ∧
        left.cells.length = right.cells.length ∧ left.Corresponds right := by
  obtain ⟨_, _, _, hleft⟩ := House.exists_dinner_sample
  obtain ⟨_, _, _, hright⟩ := exists_dinner_hall
  have hpeople : House.sampleCrowd.length = hallCrowd.length := by decide
  have hcells : (ofPrepare House.wellFormed_sample House.find?_kitchen_sample hleft).cells.length =
      (ofPrepare wellFormed_hall find?_kitchen_hall hright).cells.length := by
    rw [cells_ofPrepare, cells_ofPrepare]
    decide +kernel
  exact ⟨_, _, rfl, rfl, hpeople, hcells, corresponds _ _ hpeople hcells⟩

end Preparation

end DishPlanner

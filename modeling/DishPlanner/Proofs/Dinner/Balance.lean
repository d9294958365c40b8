import DishPlanner.Proofs.Dinner.Placement
import DishPlanner.Report.Tally

/-!
# The balance of a dinner

Every person on the roll has one dish of the own diet, which is placed or left
over, and every placed dish takes the place of one tile of kitchen floor.  Two
balances follow: one between the roll and the dishes, for each diet, and one
between the plans before and after the dinner, for each tile.
-/

namespace DishPlanner

variable {σ : Type} {plan : FloorPlan} {occupied : Position → Bool}

/-- Nothing is lost or doubled between the roll, the dishes and the plan. -/
structure Dinner.Balanced (dinner : Dinner) (plan : FloorPlan) (persons : Nat) : Prop where
  dishes : ∀ diet,
    (dinner.servings.map Serving.dish).count diet + dinner.unplaced.count diet =
      dinner.roll.count diet
  persons : dinner.roll.count .vegan + dinner.roll.count .nonVegetarian = persons
  tally_le :
    let tally := Tally.of dinner.roll dinner.servings
    tally.veganDishCount ≤ tally.veganCount ∧
      tally.nonVegetarianDishCount ≤ tally.nonVegetarianCount
  tally_eq : dinner.allPlaced = true →
    let tally := Tally.of dinner.roll dinner.servings
    tally.veganDishCount = tally.veganCount ∧
      tally.nonVegetarianDishCount = tally.nonVegetarianCount
  floor_tiles : dinner.plan.tiles.count .kitchenFloor + dinner.servings.length =
    plan.tiles.count .kitchenFloor
  dish_tiles : ∀ diet : Diet, dinner.plan.tiles.count diet.dishTile =
    plan.tiles.count diet.dishTile + (dinner.servings.map Serving.dish).count diet
  other_tiles : ∀ tile, tile ≠ .kitchenFloor → (∀ diet : Diet, tile ≠ diet.dishTile) →
    dinner.plan.tiles.count tile = plan.tiles.count tile

theorem DinnerDraws.count_dishes_dinner (draws : DinnerDraws) (plan : FloorPlan)
    (cells : List Position) (diet : Diet) :
    ((draws.dinner plan cells).servings.map Serving.dish).count diet +
        (draws.dinner plan cells).unplaced.count diet = draws.roll.count diet := by
  rw [← List.count_append, draws.dishes_append_unplaced_dinner, draws.count_dishes]

theorem length_dishPositions (servings : List Serving) (dish : Diet) :
    (dishPositions servings dish).length = (servings.map Serving.dish).count dish := by
  rw [dishPositions, List.length_map, List.count_eq_countP, List.countP_map,
    List.countP_eq_length_filter]
  rfl

/-- Every prepared dinner balances with its roll and with the plan that it was
prepared for. -/
theorem prepare_balanced {source : Source σ} {rooms : Rooms} {people : List Position}
    {settings : Settings} {state rest : σ} {notices : List Notice} {dinner : Dinner}
    (hplan : plan.WellFormed)
    (hprepare : prepare source plan rooms people occupied settings state =
      some (⟨notices, .ok dinner⟩, rest)) :
    dinner.Balanced plan people.length := by
  have hserved := hplan.servedOn_of_prepare hprepare
  obtain ⟨kitchen, draws, -, hdraws, hdinner⟩ := hplan.exists_draws_of_prepare hprepare
  have hdishes : ∀ diet, (dinner.servings.map Serving.dish).count diet +
      dinner.unplaced.count diet = dinner.roll.count diet := by
    intro diet
    rw [hdinner, draws.count_dishes_dinner]
    rfl
  refine ⟨hdishes, ?_, ?_, ?_, ?_, ?_, ?_⟩
  · rw [hdinner]
    exact count_add_count_of_drawDinner hdraws
  · simp only [Tally.of, length_dishPositions, Roll.length_holders]
    rw [← hdishes, ← hdishes]
    exact ⟨Nat.le_add_right _ _, Nat.le_add_right _ _⟩
  · intro hplaced
    rw [Dinner.allPlaced, List.isEmpty_iff] at hplaced
    simp only [Tally.of, length_dishPositions, Roll.length_holders]
    rw [← hdishes, ← hdishes, hplaced]
    exact ⟨rfl, rfl⟩
  · rw [hserved.plan_eq]
    exact hserved.onFloor.count_kitchenFloor_lay hplan
  · intro diet
    rw [hserved.plan_eq]
    exact hserved.onFloor.count_dishTile_lay hplan diet
  · intro tile hfloor hdish
    rw [hserved.plan_eq]
    exact hserved.onFloor.count_other_lay hplan hfloor hdish

theorem prepare_balanced_sample :
    House.sample.plan.WellFormed ∧
    ∃ notices dinner rest,
      prepare Generator.source House.sample.plan House.sample.rooms House.sampleCrowd
        (fun _ => false) {} House.sampleScript = some (⟨notices, .ok dinner⟩, rest) ∧
      dinner.Balanced House.sample.plan House.sampleCrowd.length := by
  obtain ⟨notices, dinner, rest, hprepare⟩ := House.exists_dinner_sample
  exact ⟨House.wellFormed_sample, notices, dinner, rest, hprepare,
    prepare_balanced House.wellFormed_sample hprepare⟩

end DishPlanner

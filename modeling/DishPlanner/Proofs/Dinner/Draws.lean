import DishPlanner.Dinner.Preparation
import DishPlanner.Proofs.Floor.Scan
import DishPlanner.Proofs.Kitchen.Laying
import DishPlanner.Proofs.Roll

/-!
# A dinner as a function of its draws

On a well-formed plan with a kitchen, preparing a dinner is drawing first and a
pure function afterwards: the roll, the swaps of the free cells and the swaps of
the dishes determine the dinner and its notices.  What is true of every dinner
is therefore proved for arbitrary draws, without a word about chance.
-/

namespace DishPlanner

variable {σ : Type}

/-- All that is drawn for a dinner. -/
structure DinnerDraws where
  roll : Roll
  cellSwaps : List Nat
  dishSwaps : List Nat

/-- Draws for a dinner, in the order of a preparation. -/
def drawDinner (source : Source σ) (persons cells : Nat) : Draw σ DinnerDraws := do
  let roll ← Roll.assign source persons
  let cellSwaps ← source.drawSwaps cells
  let dishSwaps ← source.drawSwaps persons
  return ⟨roll, cellSwaps, dishSwaps⟩

namespace DinnerDraws

/-- The dishes in their drawn order. -/
def dishes (draws : DinnerDraws) : List Diet :=
  shuffled draws.dishSwaps
    (sortedDishes (draws.roll.count .vegan) (draws.roll.count .nonVegetarian))

/-- The round of service that the draws lead to. -/
def service (draws : DinnerDraws) (plan : FloorPlan) (cells : List Position) : Service :=
  Service.paired plan (shuffled draws.cellSwaps cells) draws.dishes

/-- The dinner that the draws lead to. -/
def dinner (draws : DinnerDraws) (plan : FloorPlan) (cells : List Position) : Dinner :=
  let service := draws.service plan cells
  ⟨service.plan, draws.roll, service.servings, service.unplaced⟩

/-- The notices on the way to that dinner. -/
def notices (draws : DinnerDraws) (plan : FloorPlan) (cells : List Position)
    (persons : Nat) : List Notice :=
  let service := draws.service plan cells
  shortageNotices cells.length persons ++ service.unplacedNotices ++
    [.ready service.servings.length persons (draws.roll.count .vegan)
      (draws.roll.count .nonVegetarian)]

theorem count_dishes (draws : DinnerDraws) (diet : Diet) :
    draws.dishes.count diet = draws.roll.count diet := by
  rw [dishes, (shuffled_perm _ _).count_eq]
  cases diet with
  | vegan => exact count_vegan_sortedDishes _ _
  | nonVegetarian => exact count_nonVegetarian_sortedDishes _ _

theorem length_dishes (draws : DinnerDraws) :
    draws.dishes.length = draws.roll.count .vegan + draws.roll.count .nonVegetarian := by
  rw [← Roll.count_vegan_add_count_nonVegetarian, count_dishes, count_dishes]

end DinnerDraws

/-- The roll of a dinner is drawn first. -/
theorem exists_assign_of_drawDinner {source : Source σ} {persons cells : Nat}
    {draws : DinnerDraws} {state rest : σ}
    (hdraws : drawDinner source persons cells state = some (draws, rest)) :
    ∃ middle, Roll.assign source persons state = some (draws.roll, middle) := by
  simp only [drawDinner, Draw.bind_apply, Option.bind_eq_some_iff] at hdraws
  obtain ⟨⟨roll, middle⟩, hroll, _, -, _, -, hpure⟩ := hdraws
  obtain ⟨rfl, -⟩ := Prod.mk.inj (Option.some.inj hpure)
  exact ⟨middle, hroll⟩

theorem count_add_count_of_drawDinner {source : Source σ} {persons cells : Nat}
    {draws : DinnerDraws} {state rest : σ}
    (hdraws : drawDinner source persons cells state = some (draws, rest)) :
    draws.roll.count .vegan + draws.roll.count .nonVegetarian = persons := by
  obtain ⟨middle, hroll⟩ := exists_assign_of_drawDinner hdraws
  exact Roll.count_add_count_of_assign hroll

/-- As many dishes are drawn as there are persons. -/
theorem length_dishes_of_drawDinner {source : Source σ} {persons cells : Nat}
    {draws : DinnerDraws} {state rest : σ}
    (hdraws : drawDinner source persons cells state = some (draws, rest)) :
    draws.dishes.length = persons := by
  rw [draws.length_dishes]
  exact count_add_count_of_drawDinner hdraws

namespace FloorPlan

variable {plan : FloorPlan} {rooms : Rooms} {people : List Position}
  {occupied : Position → Bool} {settings : Settings} {kitchen : Zone}

/-- A kitchen is looked up before anything is drawn. -/
theorem prepare_of_find?_eq_none (hkitchen : rooms.find? settings.kitchenKey = none)
    (source : Source σ) (plan : FloorPlan) (people : List Position)
    (occupied : Position → Bool) (state : σ) :
    prepare source plan rooms people occupied settings state =
      some (⟨[], .error (.noKitchen settings.kitchenKey)⟩, state) := by
  simp only [prepare, hkitchen]
  rfl

theorem exists_kitchen_of_prepare {source : Source σ} {state rest : σ}
    {notices : List Notice} {dinner : Dinner}
    (hprepare : prepare source plan rooms people occupied settings state =
      some (⟨notices, .ok dinner⟩, rest)) :
    ∃ kitchen, rooms.find? settings.kitchenKey = some kitchen := by
  cases hkitchen : rooms.find? settings.kitchenKey with
  | none =>
      rw [prepare_of_find?_eq_none hkitchen] at hprepare
      cases hprepare
  | some kitchen => exact ⟨kitchen, rfl⟩

/-- A preparation is its draws, followed by a function of what was drawn. -/
theorem WellFormed.prepare_eq (hplan : plan.WellFormed)
    (hkitchen : rooms.find? settings.kitchenKey = some kitchen)
    (hpeople : people.length < memoryLimit) (occupied : Position → Bool)
    (source : Source σ) (state : σ) :
    prepare source plan rooms people occupied settings state =
      (drawDinner source people.length (freeCells plan kitchen occupied).length state).map
        fun drawn =>
          (⟨drawn.1.notices plan (freeCells plan kitchen occupied) people.length,
            .ok (drawn.1.dinner plan (freeCells plan kitchen occupied))⟩, drawn.2) := by
  simp only [prepare, hkitchen, drawDinner, Draw.bind_apply]
  cases hroll : Roll.assign source people.length state with
  | none => rfl
  | some drawn =>
      obtain ⟨roll, middle⟩ := drawn
      have hcount := Roll.count_add_count_of_assign hroll
      simp only [Option.bind_some, hplan.freeFloor_eq, Draw.bind_apply,
        hplan.serve_eq_drawSwaps source _ (hcount ▸ hpeople), hcount]
      cases source.drawSwaps (freeCells plan kitchen occupied).length middle with
      | none => rfl
      | some cellDraws =>
          simp only [Option.bind_some]
          cases source.drawSwaps people.length cellDraws.2 with
          | none => rfl
          | some dishDraws => rfl

/-- A crowd whose dishes memory has no room for gets its diets, and no dinner. -/
theorem WellFormed.prepare_of_le (hplan : plan.WellFormed)
    (hkitchen : rooms.find? settings.kitchenKey = some kitchen)
    (hpeople : memoryLimit ≤ people.length) (occupied : Position → Bool)
    (source : Source σ) (state : σ) :
    prepare source plan rooms people occupied settings state =
      (Roll.assign source people.length state).bind fun drawn =>
        (refuseService source (freeCells plan kitchen occupied).length people.length drawn.2).map
          fun refused => (Service.dinner refused.1 drawn.1 people.length, refused.2) := by
  simp only [prepare, hkitchen, Draw.bind_apply]
  cases hroll : Roll.assign source people.length state with
  | none => rfl
  | some drawn =>
      obtain ⟨roll, middle⟩ := drawn
      have hcount := Roll.count_add_count_of_assign hroll
      simp only [Option.bind_some, hplan.freeFloor_eq, Draw.bind_apply,
        serve_of_le plan _ (hcount ▸ hpeople), hcount]
      cases refuseService source (freeCells plan kitchen occupied).length people.length middle with
      | none => rfl
      | some refused => rfl

/-- Such a crowd meets a fault. -/
theorem WellFormed.exists_fault_of_prepare (hplan : plan.WellFormed)
    (hkitchen : rooms.find? settings.kitchenKey = some kitchen)
    (hpeople : memoryLimit ≤ people.length) {source : Source σ} {state rest : σ}
    {attempt : Attempt DinnerError Dinner}
    (hprepare : prepare source plan rooms people occupied settings state = some (attempt, rest)) :
    ∃ notices fault, attempt = ⟨notices, .error (.fault fault)⟩ := by
  rw [hplan.prepare_of_le hkitchen hpeople, Option.bind_eq_some_iff] at hprepare
  obtain ⟨drawn, -, hprepare⟩ := hprepare
  obtain ⟨⟨service, last⟩, hrefuse, hattempt⟩ := Option.map_eq_some_iff.mp hprepare
  obtain ⟨notices, fault, rfl⟩ := exists_fault_of_refuseService hrefuse
  exact ⟨notices, fault, (Prod.mk.inj hattempt).1.symm⟩

/-- Draws that end lead to a dinner. -/
theorem WellFormed.exists_dinner (hplan : plan.WellFormed)
    (hkitchen : rooms.find? settings.kitchenKey = some kitchen)
    (hpeople : people.length < memoryLimit) {source : Source σ} {state : σ}
    (hends : (drawDinner source people.length (freeCells plan kitchen occupied).length
      state).isSome) :
    ∃ notices dinner rest, prepare source plan rooms people occupied settings state =
      some (⟨notices, .ok dinner⟩, rest) := by
  obtain ⟨⟨draws, rest⟩, hdraws⟩ := Option.isSome_iff_exists.mp hends
  have hprepare := hplan.prepare_eq hkitchen hpeople occupied source state
  rw [hdraws] at hprepare
  exact ⟨_, _, rest, hprepare⟩

/-- A dinner is prepared only for a crowd whose dishes memory has room for. -/
theorem WellFormed.length_lt_of_prepare (hplan : plan.WellFormed) {source : Source σ}
    {state rest : σ} {notices : List Notice} {dinner : Dinner}
    (hprepare : prepare source plan rooms people occupied settings state =
      some (⟨notices, .ok dinner⟩, rest)) : people.length < memoryLimit := by
  obtain ⟨kitchen, hkitchen⟩ := exists_kitchen_of_prepare hprepare
  by_contra hlarge
  obtain ⟨_, _, hfault⟩ :=
    hplan.exists_fault_of_prepare hkitchen (Nat.le_of_not_lt hlarge) hprepare
  cases hfault

/-- Where a prepared dinner and its notices come from. -/
theorem WellFormed.exists_draws_notices_of_prepare (hplan : plan.WellFormed) {source : Source σ}
    {state rest : σ} {notices : List Notice} {dinner : Dinner}
    (hprepare : prepare source plan rooms people occupied settings state =
      some (⟨notices, .ok dinner⟩, rest)) :
    ∃ kitchen draws, rooms.find? settings.kitchenKey = some kitchen ∧
      drawDinner source people.length (freeCells plan kitchen occupied).length state =
        some (draws, rest) ∧
      dinner = draws.dinner plan (freeCells plan kitchen occupied) ∧
      notices = draws.notices plan (freeCells plan kitchen occupied) people.length := by
  obtain ⟨kitchen, hkitchen⟩ := exists_kitchen_of_prepare hprepare
  have hpeople := hplan.length_lt_of_prepare hprepare
  rw [hplan.prepare_eq hkitchen hpeople, Option.map_eq_some_iff] at hprepare
  obtain ⟨⟨draws, last⟩, hdraws, hdinner⟩ := hprepare
  cases hdinner
  exact ⟨kitchen, draws, hkitchen, hdraws, rfl, rfl⟩

/-- Where a prepared dinner comes from. -/
theorem WellFormed.exists_draws_of_prepare (hplan : plan.WellFormed) {source : Source σ}
    {state rest : σ} {notices : List Notice} {dinner : Dinner}
    (hprepare : prepare source plan rooms people occupied settings state =
      some (⟨notices, .ok dinner⟩, rest)) :
    ∃ kitchen draws, rooms.find? settings.kitchenKey = some kitchen ∧
      drawDinner source people.length (freeCells plan kitchen occupied).length state =
        some (draws, rest) ∧
      dinner = draws.dinner plan (freeCells plan kitchen occupied) := by
  obtain ⟨kitchen, draws, hkitchen, hdraws, hdinner, -⟩ :=
    hplan.exists_draws_notices_of_prepare hprepare
  exact ⟨kitchen, draws, hkitchen, hdraws, hdinner⟩

end FloorPlan

end DishPlanner

import DishPlanner.Proofs.Dinner.Draws
import DishPlanner.Proofs.House.Sample

/-!
# Where dishes are placed

Every prepared dinner puts its dishes on different cells of free kitchen floor,
and it leaves a dish over only when no such cell is left.  `Dinner.ServedOn`
keeps what later dinners depend on; `Dinner.Fills` is the whole contract of a
preparation.
-/

namespace DishPlanner

variable {σ : Type} {plan : FloorPlan} {kitchen : Zone} {occupied : Position → Bool}

/-- The dishes of a dinner were laid on different free cells of a plan. -/
structure Dinner.ServedOn (dinner : Dinner) (plan : FloorPlan)
    (occupied : Position → Bool) : Prop where
  plan_eq : dinner.plan = plan.lay dinner.servings
  onFloor : plan.OnFloor dinner.servings
  free : ∀ serving ∈ dinner.servings, occupied serving.position = false

namespace DinnerDraws

variable (draws : DinnerDraws) (plan : FloorPlan) (cells : List Position)

theorem positions_dinner :
    (draws.dinner plan cells).servings.map Serving.position =
      (shuffled draws.cellSwaps cells).take draws.dishes.length :=
  Service.positions_paired plan _ _

theorem dishes_append_unplaced_dinner :
    (draws.dinner plan cells).servings.map Serving.dish ++
      (draws.dinner plan cells).unplaced = draws.dishes :=
  Service.dishes_append_unplaced_paired plan _ _

theorem dishes_dinner :
    (draws.dinner plan cells).servings.map Serving.dish = draws.dishes.take cells.length := by
  rw [← length_shuffled draws.cellSwaps cells]
  exact Service.dishes_paired plan _ _

theorem unplaced_dinner :
    (draws.dinner plan cells).unplaced = draws.dishes.drop cells.length := by
  rw [← length_shuffled draws.cellSwaps cells]
  rfl

theorem length_servings_dinner :
    (draws.dinner plan cells).servings.length =
      min cells.length draws.dishes.length := by
  have hlength := congrArg List.length (draws.positions_dinner plan cells)
  rw [List.length_map, List.length_take, length_shuffled] at hlength
  omega

/-- Every dish is placed or left over. -/
theorem length_servings_add_length_unplaced_dinner :
    (draws.dinner plan cells).servings.length + (draws.dinner plan cells).unplaced.length =
      draws.dishes.length := by
  have hlength := congrArg List.length (draws.dishes_append_unplaced_dinner plan cells)
  rwa [List.length_append, List.length_map] at hlength

theorem length_unplaced_dinner :
    (draws.dinner plan cells).unplaced.length =
      draws.dishes.length - min cells.length draws.dishes.length := by
  have hlength := draws.length_servings_add_length_unplaced_dinner plan cells
  rw [length_servings_dinner] at hlength
  omega

theorem nodup_positions_dinner (hcells : cells.Nodup) :
    ((draws.dinner plan cells).servings.map Serving.position).Nodup := by
  rw [positions_dinner]
  have hshuffled : (shuffled draws.cellSwaps cells).Nodup :=
    (shuffled_perm _ _).nodup_iff.mpr hcells
  exact hshuffled.sublist (List.take_sublist _ _)

theorem position_mem_of_mem_dinner {serving : Serving}
    (hserving : serving ∈ (draws.dinner plan cells).servings) :
    serving.position ∈ cells := by
  have hposition := List.mem_map_of_mem (f := Serving.position) hserving
  rw [positions_dinner] at hposition
  exact (shuffled_perm _ _).mem_iff.mp (List.mem_of_mem_take hposition)

/-- With no more cells than dishes, every cell gets one. -/
theorem mem_positions_dinner (hshort : cells.length ≤ draws.dishes.length)
    {position : Position} :
    position ∈ (draws.dinner plan cells).servings.map Serving.position ↔
      position ∈ cells := by
  rw [positions_dinner, List.take_of_length_le (by rwa [length_shuffled])]
  exact (shuffled_perm _ _).mem_iff

theorem servedOn_dinner (kitchen : Zone) (occupied : Position → Bool) :
    (draws.dinner plan (freeCells plan kitchen occupied)).ServedOn plan occupied where
  plan_eq := rfl
  onFloor := ⟨draws.nodup_positions_dinner plan _ (nodup_freeCells _ _ _),
    fun _ hserving =>
      (mem_freeCells.mp (draws.position_mem_of_mem_dinner plan _ hserving)).2.2⟩
  free _ hserving :=
    (mem_freeCells.mp (draws.position_mem_of_mem_dinner plan _ hserving)).2.1

end DinnerDraws

theorem FloorPlan.WellFormed.servedOn_of_prepare (hplan : plan.WellFormed)
    {source : Source σ} {rooms : Rooms} {people : List Position} {settings : Settings}
    {state rest : σ} {notices : List Notice} {dinner : Dinner}
    (hprepare : prepare source plan rooms people occupied settings state =
      some (⟨notices, .ok dinner⟩, rest)) :
    dinner.ServedOn plan occupied := by
  obtain ⟨kitchen, draws, -, -, rfl⟩ := hplan.exists_draws_of_prepare hprepare
  exact draws.servedOn_dinner plan kitchen occupied

namespace Dinner.ServedOn

variable {dinner : Dinner} {position : Position}

theorem wellFormed (hserved : dinner.ServedOn plan occupied) (hplan : plan.WellFormed) :
    dinner.plan.WellFormed := by
  rw [hserved.plan_eq]
  exact hplan.lay dinner.servings

theorem rows_eq (hserved : dinner.ServedOn plan occupied) :
    dinner.plan.rows = plan.rows := by
  rw [hserved.plan_eq, FloorPlan.rows_lay]

theorem columns_eq (hserved : dinner.ServedOn plan occupied) :
    dinner.plan.columns = plan.columns := by
  rw [hserved.plan_eq, FloorPlan.columns_lay]

theorem tileAt_of_mem (hserved : dinner.ServedOn plan occupied) (hplan : plan.WellFormed)
    {serving : Serving} (hserving : serving ∈ dinner.servings) :
    dinner.plan.tileAt serving.position = some serving.dish.dishTile := by
  rw [hserved.plan_eq]
  exact hserved.onFloor.tileAt_lay hplan hserving

theorem tileAt_of_not_mem (hserved : dinner.ServedOn plan occupied)
    (hplan : plan.WellFormed)
    (hmem : position ∉ dinner.servings.map Serving.position) :
    dinner.plan.tileAt position = plan.tileAt position := by
  rw [hserved.plan_eq]
  exact hplan.tileAt_lay_of_not_mem hmem

/-- A position shows another tile than before exactly where a dish was placed,
since a dish is never kitchen floor. -/
theorem tileAt_ne_iff (hserved : dinner.ServedOn plan occupied) (hplan : plan.WellFormed) :
    plan.tileAt position ≠ dinner.plan.tileAt position ↔
      position ∈ dinner.servings.map Serving.position := by
  by_cases hmem : position ∈ dinner.servings.map Serving.position
  · obtain ⟨serving, hserving, rfl⟩ := List.mem_map.mp hmem
    rw [hserved.onFloor.floor serving hserving, hserved.tileAt_of_mem hplan hserving]
    simp [hmem, serving.dish.dishTile_ne_kitchenFloor.symm]
  · rw [hserved.tileAt_of_not_mem hplan hmem]
    simp [hmem]

end Dinner.ServedOn

/-! ## The sample house

Its kitchen has eighteen free cells, so a crowd of twenty is too large for it.
-/

namespace House

/-- Twenty people in the bedroom of the sample house. -/
def sampleCrowd : List Position := List.replicate 20 ⟨7, 2⟩

/-- A script with a coin of each side and one swap. -/
def sampleScript : Generator := .scripted [0, 9223372036854775808, 4000000000]

theorem exists_dinner_sample :
    ∃ notices dinner rest,
      prepare Generator.source sample.plan sample.rooms sampleCrowd (fun _ => false) {}
        sampleScript = some (⟨notices, .ok dinner⟩, rest) := by
  have hcrowd : sampleCrowd.length < memoryLimit := by decide
  have hends : (drawDinner Generator.source sampleCrowd.length
      (freeCells sample.plan sampleKitchen fun _ => false).length sampleScript).isSome := by
    decide +kernel
  exact wellFormed_sample.exists_dinner find?_kitchen_sample hcrowd hends

end House

/-! ## The contract of a preparation -/

/-- The dishes of a dinner for a number of persons fill the free cells of a
kitchen as far as both reach. -/
structure Dinner.Fills (dinner : Dinner) (plan : FloorPlan) (kitchen : Zone)
    (occupied : Position → Bool) (cells : List Position) (persons : Nat) : Prop where
  length_servings : dinner.servings.length = min cells.length persons
  length_unplaced : dinner.unplaced.length = persons - min cells.length persons
  nodup_positions : (dinner.servings.map Serving.position).Nodup
  free_floor : ∀ serving ∈ dinner.servings,
    serving.position ∈ kitchen ∧ occupied serving.position = false ∧
      plan.read serving.position = .ok (some .kitchenFloor)
  /-- A kitchen with no more free cells than persons is used up. -/
  exhausts : cells.length ≤ persons → ∀ position,
    position ∈ dinner.servings.map Serving.position ↔ position ∈ cells

theorem DinnerDraws.fills_dinner (draws : DinnerDraws) (hplan : plan.WellFormed)
    (kitchen : Zone) (occupied : Position → Bool) {persons : Nat}
    (hdishes : draws.dishes.length = persons) :
    (draws.dinner plan (freeCells plan kitchen occupied)).Fills plan kitchen occupied
      (freeCells plan kitchen occupied) persons := by
  subst hdishes
  refine ⟨draws.length_servings_dinner plan _, draws.length_unplaced_dinner plan _,
    draws.nodup_positions_dinner plan _ (nodup_freeCells _ _ _), ?_, ?_⟩
  · intro serving hserving
    obtain ⟨hkitchen, hfree, hfloor⟩ :=
      mem_freeCells.mp (draws.position_mem_of_mem_dinner plan _ hserving)
    exact ⟨hkitchen, hfree, by rw [hplan.read_eq, hfloor]⟩
  · intro hshort position
    exact draws.mem_positions_dinner plan _ hshort

/-- In a house with a kitchen only endless draws keep a preparation from its
dinner, and the dinner fills the free floor of the kitchen. -/
theorem prepare_fills (source : Source σ) (state : σ) (hplan : plan.WellFormed)
    (rooms : Rooms) (people : List Position) (hpeople : people.length < memoryLimit)
    (occupied : Position → Bool) (settings : Settings)
    (hkitchen : rooms.find? settings.kitchenKey = some kitchen) :
    ∃ cells, freeFloor plan kitchen occupied = .ok cells ∧
      ((prepare source plan rooms people occupied settings state).isSome ↔
        (drawDinner source people.length cells.length state).isSome) ∧
      ∀ notices result rest,
        prepare source plan rooms people occupied settings state =
          some (⟨notices, result⟩, rest) →
        ∃ dinner, result = .ok dinner ∧
          dinner.Fills plan kitchen occupied cells people.length := by
  have hprepare := hplan.prepare_eq hkitchen hpeople occupied source state
  refine ⟨freeCells plan kitchen occupied, hplan.freeFloor_eq kitchen occupied, ?_, ?_⟩
  · rw [hprepare, Option.isSome_map]
  · intro notices result rest hresult
    rw [hprepare, Option.map_eq_some_iff] at hresult
    obtain ⟨⟨draws, last⟩, hdraws, hdinner⟩ := hresult
    cases hdinner
    have hdishes := length_dishes_of_drawDinner hdraws
    exact ⟨_, rfl, draws.fills_dinner hplan kitchen occupied hdishes⟩

/-- The kitchen of the sample house is too small for its crowd. -/
theorem prepare_fills_sample :
    House.sample.plan.WellFormed ∧ House.sampleCrowd.length < memoryLimit ∧
    House.sample.rooms.find? ({} : Settings).kitchenKey = some House.sampleKitchen ∧
    ∃ cells,
      freeFloor House.sample.plan House.sampleKitchen (fun _ => false) = .ok cells ∧
      cells.length = 18 ∧
      ∃ notices dinner rest,
        prepare Generator.source House.sample.plan House.sample.rooms House.sampleCrowd
          (fun _ => false) {} House.sampleScript = some (⟨notices, .ok dinner⟩, rest) ∧
        dinner.Fills House.sample.plan House.sampleKitchen (fun _ => false) cells 20 := by
  have hcrowd : House.sampleCrowd.length < memoryLimit := by decide
  obtain ⟨cells, hcells, -, hfills⟩ := prepare_fills Generator.source House.sampleScript
    House.wellFormed_sample House.sample.rooms House.sampleCrowd hcrowd (fun _ => false) {}
    House.find?_kitchen_sample
  have hlength : cells.length = 18 := by
    have hcount : (freeFloor House.sample.plan House.sampleKitchen fun _ => false).map
        List.length = .ok 18 := by decide +kernel
    rw [hcells] at hcount
    exact Except.ok.inj hcount
  obtain ⟨notices, dinner, rest, hprepare⟩ := House.exists_dinner_sample
  obtain ⟨filling, hsame, hfilling⟩ := hfills _ _ _ hprepare
  cases hsame
  exact ⟨House.wellFormed_sample, hcrowd, House.find?_kitchen_sample, cells, hcells,
    hlength, notices, dinner, rest, hprepare, hfilling⟩

end DishPlanner

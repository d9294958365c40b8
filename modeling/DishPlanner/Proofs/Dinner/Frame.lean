import DishPlanner.Proofs.Dinner.Placement

/-!
# What a dinner changes on the plan

A dinner writes its dishes into a copy of the plan and nothing else.  Since a
dish always takes the place of kitchen floor, comparing the two plans finds
every dish, and it finds only dishes.
-/

namespace DishPlanner

variable {σ : Type} {plan : FloorPlan} {occupied : Position → Bool}

/-- The plan of a dinner is the given plan with the dishes laid on it. -/
structure Dinner.LaidOn (dinner : Dinner) (plan : FloorPlan) : Prop where
  wellFormed : dinner.plan.WellFormed
  rows_eq : dinner.plan.rows = plan.rows
  columns_eq : dinner.plan.columns = plan.columns
  read_serving : ∀ serving ∈ dinner.servings,
    dinner.plan.read serving.position = .ok (some serving.dish.dishTile)
  read_other : ∀ position, position ∉ dinner.servings.map Serving.position →
    dinner.plan.read position = plan.read position
  differences_eq : plan.differences dinner.plan =
    .ok (Position.sort (dinner.servings.map Serving.position))
  /-- In the sorted list every position occurs once. -/
  ascending : (Position.sort (dinner.servings.map Serving.position)).Pairwise (· < ·)

/-- Comparing the plan before a dinner with the plan after it finds the dishes,
in reading order. -/
theorem Dinner.ServedOn.differences_eq {dinner : Dinner}
    (hserved : dinner.ServedOn plan occupied) (hplan : plan.WellFormed) :
    plan.differences dinner.plan =
      .ok (Position.sort (dinner.servings.map Serving.position)) := by
  apply hplan.differences_eq_sort (hserved.wellFormed hplan) hserved.rows_eq.symm
    hserved.columns_eq.symm hserved.onFloor.nodup_positions
  intro position
  exact hserved.tileAt_ne_iff hplan

/-- Every prepared dinner is laid on the plan that it was prepared for. -/
theorem prepare_laidOn {source : Source σ} {rooms : Rooms} {people : List Position}
    {settings : Settings} {state rest : σ} {notices : List Notice} {dinner : Dinner}
    (hplan : plan.WellFormed)
    (hprepare : prepare source plan rooms people occupied settings state =
      some (⟨notices, .ok dinner⟩, rest)) :
    dinner.LaidOn plan := by
  have hserved := hplan.servedOn_of_prepare hprepare
  have hdinner := hserved.wellFormed hplan
  refine ⟨hdinner, ?_, ?_, ?_, ?_, hserved.differences_eq hplan,
    Position.pairwise_lt_sort hserved.onFloor.nodup_positions⟩
  · rw [hserved.plan_eq, FloorPlan.rows_lay]
  · rw [hserved.plan_eq, FloorPlan.columns_lay]
  · intro serving hserving
    rw [hdinner.read_eq, hserved.tileAt_of_mem hplan hserving]
  · intro position hposition
    rw [hdinner.read_eq, hplan.read_eq, hserved.tileAt_of_not_mem hplan hposition]

theorem prepare_laidOn_sample :
    House.sample.plan.WellFormed ∧
    ∃ notices dinner rest,
      prepare Generator.source House.sample.plan House.sample.rooms House.sampleCrowd
        (fun _ => false) {} House.sampleScript = some (⟨notices, .ok dinner⟩, rest) ∧
      dinner.LaidOn House.sample.plan := by
  obtain ⟨notices, dinner, rest, hprepare⟩ := House.exists_dinner_sample
  exact ⟨House.wellFormed_sample, notices, dinner, rest, hprepare,
    prepare_laidOn House.wellFormed_sample hprepare⟩

end DishPlanner

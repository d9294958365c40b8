import DishPlanner.Proofs.Dinner.Placement

/-!
# What a dinner reports

A preparation warns of a kitchen that is too small, names every dish that is left
over and closes with a summary.  It warns before anything is shuffled, numbers the
dishes while they are paired and counts the diets on the roll; all three agree
with the dinner that it ends with.
-/

namespace DishPlanner

variable {σ : Type}

/-- What is written of a notice. -/
def Notice.record (notice : Notice) : Notice.Level × String := (notice.level, notice.message)

/-- The notices tell how a dinner for a number of persons went when so many cells were
free. -/
structure Dinner.Recounted (dinner : Dinner) (notices : List Notice) (cells persons : Nat) :
    Prop where
  length_servings : dinner.servings.length = min cells persons
  length_unplaced : dinner.unplaced.length = persons - cells
  /-- The dishes that are left over are numbered behind those that found a cell. -/
  notices_eq : notices =
    (if cells < persons then [.shortage cells persons] else []) ++
      (dinner.unplaced.zipIdx (cells + 1)).map (fun numbered => .noCell numbered.2 numbered.1) ++
      [.ready (min cells persons) persons (dinner.roll.count .vegan)
        (dinner.roll.count .nonVegetarian)]
  records_eq :
    let placed := min cells persons
    let vegans := dinner.roll.count .vegan
    let others := dinner.roll.count .nonVegetarian
    notices.map Notice.record =
      (if cells < persons then
        [(.warning, s!"Only {cells} valid positions found in kitchen for {persons} dishes")]
        else []) ++
        (dinner.unplaced.zipIdx (cells + 1)).map (fun numbered =>
          (.debug, s!"Could not place dish {numbered.2} ({numbered.1.name}): no free cell")) ++
        [(.info,
          s!"Placed {placed}/{persons} dishes ({vegans} vegan, {others} non-vegetarian people)")]
  warned_iff : (∃ notice ∈ notices, notice.level = .warning) ↔ dinner.allPlaced = false

namespace DinnerDraws

variable {draws : DinnerDraws} {plan : FloorPlan} {cells : List Position} {persons : Nat}

/-- With as many dishes as persons, a dish is left over exactly when cells are short. -/
theorem length_unplaced_dinner_of_length (hdishes : draws.dishes.length = persons) :
    (draws.dinner plan cells).unplaced.length = persons - cells.length := by
  rw [length_unplaced_dinner, hdishes]
  omega

/-- Only when all cells are taken are there dishes to be numbered. -/
theorem unplacedNotices_service (hdishes : draws.dishes.length = persons) :
    (draws.service plan cells).unplacedNotices =
      ((draws.dinner plan cells).unplaced.zipIdx (cells.length + 1)).map fun numbered =>
        .noCell numbered.2 numbered.1 := by
  have hservings : (draws.dinner plan cells).servings.length = min cells.length persons :=
    hdishes ▸ draws.length_servings_dinner plan cells
  have hunplaced : (draws.dinner plan cells).unplaced.length = persons - cells.length :=
    length_unplaced_dinner_of_length hdishes
  change (((draws.dinner plan cells).unplaced.zipIdx
    ((draws.dinner plan cells).servings.length + 1)).map _) = _
  rcases Nat.le_total cells.length persons with hshort | hroomy
  · rw [hservings, Nat.min_eq_left hshort]
  · have hnone : (draws.dinner plan cells).unplaced = [] :=
      List.length_eq_zero_iff.mp (hunplaced.trans (Nat.sub_eq_zero_of_le hroomy))
    rw [hnone]
    rfl

theorem notices_eq (hdishes : draws.dishes.length = persons) :
    draws.notices plan cells persons =
      (if cells.length < persons then [.shortage cells.length persons] else []) ++
        ((draws.dinner plan cells).unplaced.zipIdx (cells.length + 1)).map
          (fun numbered => .noCell numbered.2 numbered.1) ++
        [.ready (min cells.length persons) persons (draws.roll.count .vegan)
          (draws.roll.count .nonVegetarian)] := by
  rw [notices, shortageNotices, unplacedNotices_service hdishes, ← hdishes,
    ← draws.length_servings_dinner plan cells]
  rfl

/-- A warning is never about a dish or a finished dinner. -/
theorem exists_warning_iff (hdishes : draws.dishes.length = persons) :
    (∃ notice ∈ draws.notices plan cells persons, notice.level = .warning) ↔
      cells.length < persons := by
  rw [notices_eq hdishes]
  constructor
  · rintro ⟨notice, hnotice, hlevel⟩
    by_contra henough
    rw [if_neg henough, List.nil_append, List.mem_append, List.mem_singleton] at hnotice
    rcases hnotice with hdish | hready
    · obtain ⟨numbered, -, rfl⟩ := List.mem_map.mp hdish
      cases hlevel
    · rw [hready] at hlevel
      cases hlevel
  · intro hshort
    rw [if_pos hshort]
    exact ⟨.shortage cells.length persons, by simp, rfl⟩

theorem recounted_dinner (hdishes : draws.dishes.length = persons) :
    (draws.dinner plan cells).Recounted (draws.notices plan cells persons) cells.length
      persons where
  length_servings := hdishes ▸ draws.length_servings_dinner plan cells
  length_unplaced := length_unplaced_dinner_of_length hdishes
  notices_eq := notices_eq hdishes
  records_eq := by
    rw [notices_eq hdishes, List.map_append, List.map_append, List.map_map,
      apply_ite (List.map Notice.record)]
    rfl
  warned_iff := by
    have hunplaced : (draws.dinner plan cells).unplaced.length = persons - cells.length :=
      length_unplaced_dinner_of_length hdishes
    rw [exists_warning_iff hdishes, Dinner.allPlaced, ← Nat.sub_pos_iff_lt, ← hunplaced,
      List.length_pos_iff, ← List.isEmpty_eq_false_iff]

end DinnerDraws

/-- The notices of every prepared dinner are a faithful account of it. -/
theorem prepare_recounts {source : Source σ} {plan : FloorPlan} {rooms : Rooms}
    {people : List Position} {occupied : Position → Bool} {settings : Settings}
    {state rest : σ} {notices : List Notice} {dinner : Dinner} (hplan : plan.WellFormed)
    (hprepare : prepare source plan rooms people occupied settings state =
      some (⟨notices, .ok dinner⟩, rest)) :
    ∃ kitchen cells, rooms.find? settings.kitchenKey = some kitchen ∧
      freeFloor plan kitchen occupied = .ok cells ∧
      dinner.Recounted notices cells.length people.length := by
  obtain ⟨kitchen, draws, hkitchen, hdraws, rfl, rfl⟩ :=
    hplan.exists_draws_notices_of_prepare hprepare
  exact ⟨kitchen, _, hkitchen, hplan.freeFloor_eq kitchen occupied,
    DinnerDraws.recounted_dinner (length_dishes_of_drawDinner hdraws)⟩

/-- Of twenty dishes in the sample house two are left over: a warning, a notice for each of
them and the summary are given. -/
theorem prepare_recounts_sample :
    House.sample.plan.WellFormed ∧
    ∃ notices dinner rest,
      prepare Generator.source House.sample.plan House.sample.rooms House.sampleCrowd
        (fun _ => false) {} House.sampleScript = some (⟨notices, .ok dinner⟩, rest) ∧
      dinner.Recounted notices 18 20 ∧ notices.length = 4 ∧ dinner.allPlaced = false := by
  obtain ⟨notices, dinner, rest, hprepare⟩ := House.exists_dinner_sample
  obtain ⟨kitchen, cells, hkitchen, hcells, hrecounted⟩ :=
    prepare_recounts House.wellFormed_sample hprepare
  have hcount : cells.length = 18 := by
    have hsample : (freeCells House.sample.plan House.sampleKitchen fun _ => false).length = 18 :=
      by decide +kernel
    have hfound : kitchen = House.sampleKitchen :=
      Option.some.inj (hkitchen.symm.trans House.find?_kitchen_sample)
    rw [hfound, House.wellFormed_sample.freeFloor_eq] at hcells
    rw [← Except.ok.inj hcells, hsample]
  have hpeople : House.sampleCrowd.length = 20 := by decide
  rw [hcount, hpeople] at hrecounted
  refine ⟨House.wellFormed_sample, notices, dinner, rest, hprepare, hrecounted, ?_, ?_⟩
  · rw [hrecounted.notices_eq]
    simp [hrecounted.length_unplaced]
  · apply hrecounted.warned_iff.mp
    rw [hrecounted.notices_eq]
    exact ⟨.shortage 18 20, by simp, rfl⟩

end DishPlanner

import DishPlanner.Proofs.Dinner.Placement
import DishPlanner.Proofs.Report.Lines
import DishPlanner.Proofs.Roll.Choices

/-!
# Reports of dinners

The persons of a dinner are numbered from 1 on in the order in which people are
listed, and there are never more dishes than persons.  Every placed dish is
therefore paired with a person who stands somewhere: the report has a line for
each dish and nowhere says that a place is unknown.
-/

namespace DishPlanner

variable {σ : Type}

section Pairings

variable {diets : List Diet} {servings : List Serving} {people : List Position}

/-- A pairing joins the person with the next number and the dish at its place. -/
theorem getElem?_pairings_ofDiets {place : Nat} {diet : Diet} {serving : Serving}
    (hdiet : diets[place]? = some diet) (hserving : servings[place]? = some serving)
    (people : List Position) :
    (pairings (Roll.ofDiets diets) servings people)[place]? =
      some ⟨place + 1, diet, people[place]?, serving.position⟩ := by
  have hplace : place < diets.length := (List.getElem?_eq_some_iff.mp hdiet).1
  have hperson : (List.range' 1 diets.length)[place]? = some (place + 1) := by
    rw [List.getElem?_range' hplace, Nat.one_mul, Nat.add_comm]
  have hentry : (Roll.ofDiets diets).entries[place]? = some (place + 1, diet) :=
    List.getElem?_zip_eq_some.mpr ⟨hperson, hdiet⟩
  rw [pairings, List.getElem?_zipWith_eq_some]
  exact ⟨(place + 1, diet), serving, hentry, hserving, rfl⟩

theorem length_pairings_ofDiets (hservings : servings.length ≤ diets.length) :
    (pairings (Roll.ofDiets diets) servings people).length = servings.length := by
  rw [pairings, List.length_zipWith, Roll.ofDiets, List.length_zip, List.length_range',
    Nat.min_self, Nat.min_eq_right hservings]

/-- With no more dishes than persons, the persons who are paired are the first ones. -/
theorem persons_pairings_ofDiets (hservings : servings.length ≤ diets.length) :
    (pairings (Roll.ofDiets diets) servings people).map Pairing.person =
      List.range' 1 servings.length := by
  apply List.ext_getElem?
  intro place
  by_cases hplace : place < servings.length
  · have hdiet := List.getElem?_eq_getElem (Nat.lt_of_lt_of_le hplace hservings)
    have hserving := List.getElem?_eq_getElem hplace
    rw [List.getElem?_map, getElem?_pairings_ofDiets hdiet hserving people,
      List.getElem?_range' hplace, Nat.one_mul, Nat.add_comm 1]
    rfl
  · rw [List.getElem?_eq_none, List.getElem?_eq_none]
    · rw [List.length_range']
      exact Nat.le_of_not_lt hplace
    · rw [List.length_map, length_pairings_ofDiets hservings]
      exact Nat.le_of_not_lt hplace

/-- With as many people as persons, everybody who is paired is one of the people. -/
theorem exists_pairing_ofDiets (hpeople : people.length = diets.length)
    (hservings : servings.length ≤ diets.length) {place : Nat} {serving : Serving}
    (hserving : servings[place]? = some serving) :
    ∃ diet position, (Roll.ofDiets diets).dietOf (place + 1) = some diet ∧
      people[place]? = some position ∧
      (pairings (Roll.ofDiets diets) servings people)[place]? =
        some ⟨place + 1, diet, some position, serving.position⟩ := by
  have hplace : place < diets.length :=
    Nat.lt_of_lt_of_le (List.getElem?_eq_some_iff.mp hserving).1 hservings
  have hdiet := List.getElem?_eq_getElem hplace
  have hposition := List.getElem?_eq_getElem (hpeople ▸ hplace)
  refine ⟨diets[place], people[place], ?_, hposition, ?_⟩
  · rw [Nat.add_comm, Roll.dietOf_ofDiets, hdiet]
  · rw [getElem?_pairings_ofDiets hdiet hserving, hposition]

theorem place_ne_none_of_mem (hpeople : people.length = diets.length)
    (hservings : servings.length ≤ diets.length) :
    ∀ pairing ∈ pairings (Roll.ofDiets diets) servings people, pairing.place ≠ none := by
  intro pairing hpairing
  obtain ⟨place, hplace⟩ := List.mem_iff_getElem?.mp hpairing
  have hshorter : place < servings.length := by
    rw [← length_pairings_ofDiets hservings]
    exact (List.getElem?_eq_some_iff.mp hplace).1
  obtain ⟨diet, position, -, -, hfound⟩ :=
    exists_pairing_ofDiets hpeople hservings (List.getElem?_eq_getElem hshorter)
  rw [hplace] at hfound
  rw [Option.some.inj hfound]
  exact Option.some_ne_none position

end Pairings

/-- What the report of a dinner says about its people when so many cells were free:
the first of them, one for each dish, are paired with the dishes. -/
structure Dinner.Reports (dinner : Dinner) (people : List Position) (cells : Nat) : Prop where
  length_eq : (pairings dinner.roll dinner.servings people).length = dinner.servings.length
  pairing_eq : ∀ place serving, dinner.servings[place]? = some serving →
    ∃ diet position, dinner.roll.dietOf (place + 1) = some diet ∧
      people[place]? = some position ∧
      (pairings dinner.roll dinner.servings people)[place]? =
        some ⟨place + 1, diet, some position, serving.position⟩
  persons_eq : (pairings dinner.roll dinner.servings people).map Pairing.person =
    List.range' 1 (min cells people.length)
  /-- Behind ten lines of heading there is a line for each dish. -/
  lines_eq : ∃ lines, HasLines (report dinner.roll dinner.servings people) lines ∧
    lines.length = 10 + dinner.servings.length ∧
    lines.drop 10 = (pairings dinner.roll dinner.servings people).map Pairing.text
  known : ¬ "Unknown".toList <:+: (report dinner.roll dinner.servings people).toList

theorem DinnerDraws.reports_dinner {draws : DinnerDraws} {people : List Position}
    {diets : List Diet} (hroll : draws.roll = .ofDiets diets)
    (hpeople : people.length = diets.length) (plan : FloorPlan) (cells : List Position) :
    (draws.dinner plan cells).Reports people cells.length := by
  have hdishes : draws.dishes.length = people.length := by
    rw [draws.length_dishes, hroll, Roll.count, Roll.count, Roll.values_ofDiets,
      Roll.count_vegan_add_count_nonVegetarian, hpeople]
  have hlength := draws.length_servings_dinner plan cells
  rw [hdishes] at hlength
  have hservings : (draws.dinner plan cells).servings.length ≤ diets.length := by omega
  have hdinner : (draws.dinner plan cells).roll = .ofDiets diets := hroll
  refine ⟨?_, ?_, ?_, ⟨_, hasLines_report _ _ _, ?_, rfl⟩, ?_⟩
  · rw [hdinner, length_pairings_ofDiets hservings]
  · intro place serving hserving
    rw [hdinner]
    exact exists_pairing_ofDiets hpeople hservings hserving
  · rw [hdinner, persons_pairings_ofDiets hservings, hlength]
  · rw [hdinner, reportLines, List.length_append, List.length_map,
      length_pairings_ofDiets hservings]
    rfl
  · apply unknown_not_infix_report
    rw [hdinner]
    exact place_ne_none_of_mem hpeople hservings

/-- The report of a prepared dinner speaks of real people only. -/
theorem prepare_reports {source : Source σ} {plan : FloorPlan} {rooms : Rooms}
    {people : List Position} {occupied : Position → Bool} {settings : Settings}
    {state rest : σ} {notices : List Notice} {dinner : Dinner} (hplan : plan.WellFormed)
    (hprepare : prepare source plan rooms people occupied settings state =
      some (⟨notices, .ok dinner⟩, rest)) :
    ∃ kitchen cells, rooms.find? settings.kitchenKey = some kitchen ∧
      freeFloor plan kitchen occupied = .ok cells ∧ dinner.Reports people cells.length := by
  obtain ⟨kitchen, draws, hkitchen, hdraws, rfl⟩ := hplan.exists_draws_of_prepare hprepare
  obtain ⟨middle, hassign⟩ := exists_assign_of_drawDinner hdraws
  obtain ⟨diets, hlength, hroll⟩ := Roll.assign_eq_some hassign
  exact ⟨kitchen, _, hkitchen, hplan.freeFloor_eq kitchen occupied,
    DinnerDraws.reports_dinner hroll hlength.symm plan _⟩

/-- Of twenty people in the sample house eighteen are paired with a dish. -/
theorem prepare_reports_sample :
    House.sample.plan.WellFormed ∧
    ∃ notices dinner rest,
      prepare Generator.source House.sample.plan House.sample.rooms House.sampleCrowd
        (fun _ => false) {} House.sampleScript = some (⟨notices, .ok dinner⟩, rest) ∧
      ∃ kitchen cells, House.sample.rooms.find? ({} : Settings).kitchenKey = some kitchen ∧
        freeFloor House.sample.plan kitchen (fun _ => false) = .ok cells ∧
        dinner.Reports House.sampleCrowd cells.length := by
  obtain ⟨notices, dinner, rest, hprepare⟩ := House.exists_dinner_sample
  exact ⟨House.wellFormed_sample, notices, dinner, rest, hprepare,
    prepare_reports House.wellFormed_sample hprepare⟩

end DishPlanner

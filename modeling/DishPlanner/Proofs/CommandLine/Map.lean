import DishPlanner.Proofs.CommandLine.Run
import DishPlanner.Proofs.Dinner.Display
import DishPlanner.Proofs.Dinner.Readiness
import DishPlanner.Proofs.House.Seating

/-!
# The printed map

Guests are seated in the rooms before dinner, and dishes are laid where no guest
stands.  A map of the evening therefore shows all of them, even when the guests fill
the house, and what is missing on it is what the warning counts.  Nothing is wrong
with the sample house or with guests who are seated in it, so a run prints the map
right behind its title.
-/

namespace DishPlanner

variable {σ : Type}

/-- An evening without problems in a house where a number of guests was asked for: they
are seated, a dinner is prepared, and its page shows a map on which nobody and no dish
is hidden.  If the map has fewer dishes than guests, the page warns of those that it
lacks. -/
structure Evening.Clear (evening : Evening) (house : House) (count : Nat) (dinner : Dinner)
    (map page : String) : Prop where
  problems_eq : evening.problems = []
  result_eq : evening.attempt.result = .ok dinner
  seated : house.Seated count evening.people
  map_eq : (dinner.plan.showPeople evening.people >>= FloorPlan.render) = .ok map
  clear : house.plan.ClearMap evening.people dinner.servings map
  page_eq : dinner.page evening.people = .ok page
  text_eq :
    let visible := map.toList.count 'V' + map.toList.count 'N'
    let missing := if visible = evening.people.length then ""
      else s!"\nWarning: {evening.people.length - visible} dishes could not be placed\n"
    page = map ++ "\n" ++ report dinner.roll dinner.servings evening.people ++ missing

/-- The page of a dinner is its map with the report and, if there are fewer dishes than
guests, a warning. -/
theorem Dinner.page_eq {dinner : Dinner} {people : List Position} {map : String}
    (hmap : (dinner.plan.showPeople people >>= FloorPlan.render) = .ok map)
    (hdishes : dinner.servings.length + dinner.unplaced.length = people.length) :
    dinner.page people = .ok (map ++ "\n" ++ report dinner.roll dinner.servings people ++
      if dinner.servings.length = people.length then ""
      else
        s!"\nWarning: {people.length - dinner.servings.length} dishes could not be placed\n") := by
  have hplaced : dinner.allPlaced = true ↔ dinner.servings.length = people.length := by
    rw [Dinner.allPlaced, List.isEmpty_iff_length_eq_zero]
    omega
  have hunplaced : people.length - dinner.servings.length = dinner.unplaced.length := by omega
  have hmissing :
      (if dinner.allPlaced then ""
        else s!"\nWarning: {dinner.unplaced.length} dishes could not be placed\n") =
        if dinner.servings.length = people.length then ""
        else s!"\nWarning: {people.length - dinner.servings.length} dishes could not be placed\n" :=
    if_congr hplaced rfl (by rw [hunplaced])
  rw [Dinner.page, ← bind_assoc, hmap, hmissing]
  rfl

namespace House

variable {house : House} {kitchen : Zone} {source : Source σ}

/-- Guests of an evening are seated before their dinner is drawn. -/
theorem exists_swaps_of_drawEvening {count : Nat} {people : List Position}
    {draws : DinnerDraws} {state rest : σ}
    (hdrawn : house.drawEvening source kitchen count state = some ((people, draws), rest)) :
    ∃ swaps middle, people = house.guests swaps count ∧
      drawDinner source people.length (freeCells house.plan kitchen people.contains).length
        middle = some (draws, rest) := by
  simp only [drawEvening, Draw.bind_apply, Option.bind_eq_some_iff] at hdrawn
  obtain ⟨⟨swaps, middle⟩, -, ⟨found, last⟩, hdraws, hpure⟩ := hdrawn
  obtain ⟨hpair, rfl⟩ := Prod.mk.inj (Option.some.inj hpure)
  obtain ⟨rfl, rfl⟩ := Prod.mk.inj hpair
  exact ⟨swaps, middle, rfl, hdraws⟩

section Clear

variable (hplan : house.plan.WellFormed) (hunmarked : house.plan.Unmarked)
  (hcolumns : 0 < house.plan.columns) (hwide : house.plan.columns + 1 < wordCount)
  (hfits : house.plan.rows * (house.plan.columns + 1) < memoryLimit)

include hplan hunmarked hcolumns hwide hfits

/-- The map of a dinner for seated guests is clear. -/
theorem exists_clearMap {count : Nat} {people : List Position} {dinner : Dinner}
    (hseated : house.Seated count people)
    (hserved : dinner.ServedOn house.plan people.contains) :
    ∃ map, (dinner.plan.showPeople people >>= FloorPlan.render) = .ok map ∧
      house.plan.ClearMap people dinner.servings map := by
  have hcovers : ∀ position ∈ people, house.plan.Covers position := fun position hposition =>
    (mem_seats.mp (hseated.seated position hposition)).1
  obtain ⟨shown, hpeople, hshown⟩ := hserved.exists_shown hplan fun position hposition =>
    List.contains_iff_mem.mpr hposition
  have hcodes := hshown.code_ne_lineFeed hplan hunmarked
  rw [← hshown.columns_eq] at hcolumns hwide hfits
  rw [← hshown.rows_eq] at hfits
  obtain ⟨map, hmap, hmapped⟩ := hshown.wellFormed.exists_map hcolumns hwide hfits hcodes
  refine ⟨map, ?_, hshown.clearMap hplan hunmarked hmapped hcovers hseated.nodup
    hserved.onFloor.nodup_positions⟩
  rw [hpeople]
  exact hmap

variable {settings : Settings} {count : Nat}
  (hkitchen : house.rooms.find? settings.kitchenKey = some kitchen)
  (hrooms : ∀ room ∈ house.rooms.entries, house.plan.Houses room.2)

include hkitchen hrooms

/-- An evening in a house with nothing wrong is clear if its guests are seated and get a
dish each, on free cells as far as there are any. -/
theorem exists_clear {people : List Position} {notices : List Notice} {dinner : Dinner}
    (hseated : house.Seated count people)
    (hserved : dinner.ServedOn house.plan people.contains)
    (hdishes : dinner.servings.length + dinner.unplaced.length = people.length) :
    ∃ map page, Evening.Clear
      ⟨people, problems house.plan house.rooms people settings, ⟨notices, .ok dinner⟩⟩
      house count dinner map page := by
  obtain ⟨map, hmap, hclear⟩ :=
    exists_clearMap hplan hunmarked hcolumns hwide hfits hseated hserved
  have hpage := Dinner.page_eq hmap hdishes
  rw [← hclear.count_dishes] at hpage
  exact ⟨map, _, {
    problems_eq := problems_eq_nil hplan hkitchen hrooms fun position hposition =>
      (mem_seats.mp (hseated.seated position hposition)).1
    result_eq := rfl
    seated := hseated
    map_eq := hmap
    clear := hclear
    page_eq := hpage
    text_eq := rfl }⟩

/-- Whatever is drawn, an evening in a house with nothing wrong is clear. -/
theorem exists_clear_of_host (hsize : house.plan.tiles.size < memoryLimit) {state rest : σ}
    {result : Except Fault Evening}
    (hhost : house.host source count settings state = some (result, rest)) :
    ∃ evening dinner map page, result = .ok evening ∧
      evening.Clear house count dinner map page := by
  rw [host_eq hplan hsize hkitchen, Option.map_eq_some_iff] at hhost
  obtain ⟨⟨⟨people, draws⟩, last⟩, hdrawn, hevening⟩ := hhost
  obtain ⟨swaps, middle, hguests, hdraws⟩ := exists_swaps_of_drawEvening hdrawn
  have hseated : house.Seated count people := hguests ▸ seated_guests hplan swaps count
  have hserved := draws.servedOn_dinner house.plan kitchen people.contains
  have hdishes := draws.length_servings_add_length_unplaced_dinner house.plan
    (freeCells house.plan kitchen people.contains)
  rw [length_dishes_of_drawDinner hdraws] at hdishes
  obtain ⟨map, page, hclear⟩ := exists_clear hplan hunmarked hcolumns hwide hfits hkitchen hrooms
    hseated hserved hdishes
  exact ⟨_, _, map, page, (Prod.mk.inj hevening).1.symm, hclear⟩

end Clear

/-- A run without problems prints its page behind its title. -/
theorem exists_text_of_run {start : Nat → σ} {options : Options} {state rest : σ}
    {evening : Evening} {count : Nat} {dinner : Dinner} {map page : String} {output : Output}
    (hjson : options.json = false)
    (hhost : house.host source options.people options.settings state = some (.ok evening, rest))
    (hclear : evening.Clear house count dinner map page)
    (hrun : house.run source start options state = some output) :
    ∃ behind, output.text = "=== Dwelling Dish Harness ===\n\n" ++ page ++
      "\n--- Dish Generation Sweep ---\n" ++ behind := by
  simp only [House.run, hhost, hclear.problems_eq, hclear.result_eq, hclear.page_eq, hjson,
    Bool.false_eq_true, if_false, List.map_nil, String.join_nil, String.append_empty] at hrun
  cases hsweep : house.sweep source start with
  | none =>
      rw [hsweep] at hrun
      cases hrun
  | some swept =>
      rw [hsweep] at hrun
      cases swept with
      | error error =>
          cases hrun
          exact ⟨"", String.append_empty.symm⟩
      | ok checks =>
          cases hrun
          exact ⟨_, rfl⟩

/-- Nobody and no dish is hidden on a map.  The sample house can be built, and in it an
evening ends as soon as its draws do, whoever is asked for, and a run prints its clear
map behind the title.  On any plan, people who stand where dishes may not be laid hide
none of them. -/
theorem host_hides_nothing :
    buildSample = .ok sample ∧
    (∀ {σ : Type} (source : Source σ) (start : Nat → σ) (options : Options) (state : σ),
      ((sample.host source options.people options.settings state).isSome ↔
        (sample.drawEvening source sampleKitchen options.people state).isSome) ∧
      ∀ result rest,
        sample.host source options.people options.settings state = some (result, rest) →
        ∃ evening dinner map page, result = .ok evening ∧
          evening.Clear sample options.people dinner map page ∧
          (options.json = false → ∀ output,
            sample.run source start options state = some output →
            ∃ behind, output.text = "=== Dwelling Dish Harness ===\n\n" ++ page ++
              "\n--- Dish Generation Sweep ---\n" ++ behind)) ∧
    ∀ {σ : Type} (source : Source σ) (plan : FloorPlan) (rooms : Rooms)
      (people crowd : List Position) (occupied : Position → Bool) (settings : Settings)
      (state rest : σ) (notices : List Notice) (dinner : Dinner), plan.WellFormed →
      prepare source plan rooms people occupied settings state =
        some (⟨notices, .ok dinner⟩, rest) →
      (∀ position ∈ crowd, occupied position = true) →
      ∃ shown, dinner.plan.showPeople crowd = .ok shown ∧ dinner.Shown plan crowd shown := by
  have hplan := wellFormed_sample
  have hsize : sample.plan.tiles.size < memoryLimit := by decide +kernel
  have hunmarked : sample.plan.Unmarked := by decide +kernel
  have hrooms : ∀ room ∈ sample.rooms.entries, sample.plan.Houses room.2 := by decide
  refine ⟨buildSample_eq, ?_, ?_⟩
  · intro σ source start options state
    have hkitchen : sample.rooms.find? options.settings.kitchenKey = some sampleKitchen :=
      find?_kitchen_sample
    constructor
    · rw [host_eq hplan hsize hkitchen, Option.isSome_map]
    · intro result rest hhost
      obtain ⟨evening, dinner, map, page, rfl, hclear⟩ := exists_clear_of_host hplan hunmarked
        (by decide) (by decide) (by decide) hkitchen hrooms hsize hhost
      exact ⟨evening, dinner, map, page, rfl, hclear, fun hjson output hrun =>
        exists_text_of_run hjson hhost hclear hrun⟩
  · intro σ source plan rooms people crowd occupied settings state rest notices dinner hplan
      hprepare hcrowd
    exact (hplan.servedOn_of_prepare hprepare).exists_shown hplan hcrowd

/-- The options of a run for a hundred people, more than the sample house can seat. -/
def crowdedOptions : Options := ⟨none, 100, false, false⟩

/-- A full house shows a guest on each of its seats, and the plan of a dinner for twenty
people in the bedroom shows them there. -/
theorem host_hides_nothing_crowded :
    (∃ evening dinner map page rest output,
      sample.host Generator.source 100 crowdedOptions.settings (.scripted []) =
        some (.ok evening, rest) ∧
      evening.Clear sample 100 dinner map page ∧ map.toList.count 'P' = 73 ∧
      crowdedOptions.json = false ∧
      sample.run Generator.source (fun _ => eighthScript) crowdedOptions (.scripted []) =
        some output ∧
      ∃ behind, output.text = "=== Dwelling Dish Harness ===\n\n" ++ page ++
        "\n--- Dish Generation Sweep ---\n" ++ behind) ∧
    sample.plan.WellFormed ∧ (∀ position ∈ sampleCrowd, sampleCrowd.contains position = true) ∧
    ∃ notices dinner rest shown,
      prepare Generator.source sample.plan sample.rooms sampleCrowd sampleCrowd.contains {}
        sampleScript = some (⟨notices, .ok dinner⟩, rest) ∧
      dinner.plan.showPeople sampleCrowd = .ok shown ∧
      dinner.Shown sample.plan sampleCrowd shown := by
  have hplan := wellFormed_sample
  have hdrawn : (sample.drawEvening Generator.source sampleKitchen crowdedOptions.people
      (.scripted [])).isSome := by decide +kernel
  have hdinner : (drawDinner Generator.source sampleCrowd.length
      (freeCells sample.plan sampleKitchen sampleCrowd.contains).length sampleScript).isSome := by
    decide +kernel
  constructor
  · obtain ⟨hends, hclear⟩ := host_hides_nothing.2.1 Generator.source (fun _ => eighthScript)
      crowdedOptions (.scripted [])
    obtain ⟨⟨result, rest⟩, hhost⟩ := Option.isSome_iff_exists.mp (hends.mpr hdrawn)
    obtain ⟨evening, dinner, map, page, rfl, hevening, hprinted⟩ := hclear result rest hhost
    obtain ⟨opening, hrun⟩ := exists_run hplan (by decide +kernel) (by decide) (by decide)
      find?_kitchen_sample Generator.source (fun _ => eighthScript) crowdedOptions (.scripted [])
    rw [if_pos ⟨hdrawn, fun _ _ => isSome_drawRound_sample⟩] at hrun
    have hseats : sample.seats.ncard = 73 := by
      rw [ncard_seats hplan]
      decide +kernel
    have hguests : map.toList.count 'P' = 73 := by
      rw [hevening.clear.count_people, hevening.seated.length_eq, hseats]
      rfl
    exact ⟨evening, dinner, map, page, rest, _, hhost, hevening, hguests, rfl, hrun,
      hprinted rfl _ hrun⟩
  · have hcrowd : ∀ position ∈ sampleCrowd, sampleCrowd.contains position = true :=
      fun position hposition => List.contains_iff_mem.mpr hposition
    obtain ⟨notices, dinner, rest, hprepare⟩ :=
      hplan.exists_dinner find?_kitchen_sample (by decide) hdinner
    obtain ⟨shown, hshown⟩ := host_hides_nothing.2.2 Generator.source sample.plan sample.rooms
      sampleCrowd sampleCrowd sampleCrowd.contains {} sampleScript rest notices dinner hplan
      hprepare hcrowd
    exact ⟨hplan, hcrowd, notices, dinner, rest, shown, hprepare, hshown⟩

end House

end DishPlanner

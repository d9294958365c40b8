import DishPlanner.Proofs.Dinner.Season

/-!
# Two ways to keep a dinner

After a dinner its plan is adopted, or its cells are marked as occupied.  Both
leave the same free cells in every kitchen, so no later dinner can tell them
apart: it draws the same, serves the same dishes on the same cells, and the two
plans go on differing at the cells of the first dinner only.
-/

namespace DishPlanner

variable {σ : Type}

/-- The occupied cells together with those of a dinner. -/
def Dinner.mark (dinner : Dinner) (occupied : Position → Bool) (position : Position) : Bool :=
  occupied position || decide (position ∈ dinner.servings.map Serving.position)

theorem Dinner.mark_eq_false {dinner : Dinner} {occupied : Position → Bool}
    {position : Position} :
    dinner.mark occupied position = false ↔
      occupied position = false ∧ position ∉ dinner.servings.map Serving.position := by
  rw [mark, Bool.or_eq_false_iff, decide_eq_false_iff_not]

/-- Two dinners are the same, but for the listed positions of their plans. -/
structure Dinner.SameBut (left right : Dinner) (positions : List Position) : Prop where
  roll_eq : left.roll = right.roll
  servings_eq : left.servings = right.servings
  unplaced_eq : left.unplaced = right.unplaced
  rows_eq : left.plan.rows = right.plan.rows
  columns_eq : left.plan.columns = right.plan.columns
  /-- The plans differ at every listed position and nowhere else. -/
  read_ne_iff : ∀ position,
    left.plan.read position ≠ right.plan.read position ↔ position ∈ positions
  differences_eq : left.plan.differences right.plan = .ok (Position.sort positions)

/-- Two preparations end alike, but for the listed positions of the plans of
their dinners: neither ends, or both give the same notices and leave the same
random state, with one and the same error or with dinners. -/
inductive EndAlike (positions : List Position) :
    Option (Attempt DinnerError Dinner × σ) →
      Option (Attempt DinnerError Dinner × σ) → Prop
  | endless : EndAlike positions none none
  | refused (notices : List Notice) (error : DinnerError) (rest : σ) :
      EndAlike positions (some (⟨notices, .error error⟩, rest))
        (some (⟨notices, .error error⟩, rest))
  | served (notices : List Notice) {left right : Dinner} (rest : σ)
      (hdinners : left.SameBut right positions) :
      EndAlike positions (some (⟨notices, .ok left⟩, rest))
        (some (⟨notices, .ok right⟩, rest))

namespace Dinner.ServedOn

variable {plan : FloorPlan} {firstOccupied : Position → Bool} {first : Dinner}

/-- Adopting a dinner's plan and marking its cells leave the same free cells. -/
theorem freeCells_eq (hfirst : first.ServedOn plan firstOccupied) (hplan : plan.WellFormed)
    (kitchen : Zone) (occupied : Position → Bool) :
    freeCells first.plan kitchen occupied = freeCells plan kitchen (first.mark occupied) := by
  apply (pairwise_lt_freeCells _ _ _).eq_of_mem_iff (pairwise_lt_freeCells _ _ _)
  intro position
  rw [mem_freeCells, mem_freeCells, mark_eq_false]
  by_cases hserved : position ∈ first.servings.map Serving.position
  · obtain ⟨serving, hserving, rfl⟩ := List.mem_map.mp hserved
    rw [hfirst.tileAt_of_mem hplan hserving, Option.some.injEq]
    simp [hserved, serving.dish.dishTile_ne_kitchenFloor]
  · rw [hfirst.tileAt_of_not_mem hplan hserved]
    simp [hserved]

variable {occupied : Position → Bool} {left right : Dinner}

/-- Dishes that are served after a dinner on the adopted plan and on the marked
one leave the two plans apart where the dinner left them apart. -/
theorem tileAt_ne_iff_of_same (hfirst : first.ServedOn plan firstOccupied)
    (hplan : plan.WellFormed) (hleft : left.ServedOn first.plan occupied)
    (hright : right.ServedOn plan (first.mark occupied))
    (hservings : left.servings = right.servings) (position : Position) :
    left.plan.tileAt position ≠ right.plan.tileAt position ↔
      position ∈ first.servings.map Serving.position := by
  have hadopted := hfirst.wellFormed hplan
  by_cases hnew : position ∈ right.servings.map Serving.position
  · obtain ⟨serving, hserving, rfl⟩ := List.mem_map.mp hnew
    have hfree := (mark_eq_false.mp (hright.free serving hserving)).2
    rw [hright.tileAt_of_mem hplan hserving,
      hleft.tileAt_of_mem hadopted (hservings ▸ hserving)]
    simp [hfree]
  · rw [hright.tileAt_of_not_mem hplan hnew,
      hleft.tileAt_of_not_mem hadopted (hservings ▸ hnew), ne_comm,
      hfirst.tileAt_ne_iff hplan]

theorem sameBut (hfirst : first.ServedOn plan firstOccupied) (hplan : plan.WellFormed)
    (hleft : left.ServedOn first.plan occupied)
    (hright : right.ServedOn plan (first.mark occupied)) (hroll : left.roll = right.roll)
    (hservings : left.servings = right.servings) (hunplaced : left.unplaced = right.unplaced) :
    left.SameBut right (first.servings.map Serving.position) := by
  have hadopted := hfirst.wellFormed hplan
  have hrows : left.plan.rows = right.plan.rows := by
    rw [hleft.rows_eq, hfirst.rows_eq, hright.rows_eq]
  have hcolumns : left.plan.columns = right.plan.columns := by
    rw [hleft.columns_eq, hfirst.columns_eq, hright.columns_eq]
  have hdifferent := hfirst.tileAt_ne_iff_of_same hplan hleft hright hservings
  refine ⟨hroll, hservings, hunplaced, hrows, hcolumns, ?_, ?_⟩
  · intro position
    rw [(hleft.wellFormed hadopted).read_eq, (hright.wellFormed hplan).read_eq, ne_eq,
      Except.ok.injEq]
    exact hdifferent position
  · exact (hleft.wellFormed hadopted).differences_eq_sort (hright.wellFormed hplan) hrows
      hcolumns hfirst.onFloor.nodup_positions hdifferent

end Dinner.ServedOn

/-- Whether the plan of a dinner is adopted or its cells are marked makes no
difference to any later preparation, but for what the plan shows at these cells. -/
theorem prepare_adopted_endAlike {τ : Type} {firstSource : Source τ} {plan : FloorPlan}
    {firstRooms : Rooms} {firstPeople : List Position} {firstOccupied : Position → Bool}
    {firstSettings : Settings} {firstState firstRest : τ} {firstNotices : List Notice}
    {first : Dinner} (hplan : plan.WellFormed)
    (hfirst : prepare firstSource plan firstRooms firstPeople firstOccupied firstSettings
      firstState = some (⟨firstNotices, .ok first⟩, firstRest))
    (source : Source σ) (rooms : Rooms) (people : List Position) (occupied : Position → Bool)
    (settings : Settings) (state : σ) :
    EndAlike (first.servings.map Serving.position)
      (prepare source first.plan rooms people occupied settings state)
      (prepare source plan rooms people (first.mark occupied) settings state) := by
  have hserved := hplan.servedOn_of_prepare hfirst
  have hadopted := hserved.wellFormed hplan
  cases hkitchen : rooms.find? settings.kitchenKey with
  | none =>
      rw [FloorPlan.prepare_of_find?_eq_none hkitchen, FloorPlan.prepare_of_find?_eq_none hkitchen]
      exact .refused _ _ _
  | some kitchen =>
      have hcells := hserved.freeCells_eq hplan kitchen occupied
      by_cases hpeople : people.length < memoryLimit
      · rw [hadopted.prepare_eq hkitchen hpeople, hplan.prepare_eq hkitchen hpeople, hcells]
        cases drawDinner source people.length
            (freeCells plan kitchen (first.mark occupied)).length state with
        | none => exact .endless
        | some drawn =>
            have hleft := drawn.1.servedOn_dinner first.plan kitchen occupied
            rw [hcells] at hleft
            exact .served _ _ (hserved.sameBut hplan hleft
              (drawn.1.servedOn_dinner plan kitchen _) rfl rfl rfl)
      · have hlarge := Nat.le_of_not_lt hpeople
        -- Where there is no room for the dishes, only the number of free cells matters.
        have hsame : prepare source first.plan rooms people occupied settings state =
            prepare source plan rooms people (first.mark occupied) settings state := by
          rw [hadopted.prepare_of_le hkitchen hlarge, hplan.prepare_of_le hkitchen hlarge, hcells]
        rw [hsame]
        cases hprepare : prepare source plan rooms people (first.mark occupied) settings state with
        | none => exact .endless
        | some ended =>
            obtain ⟨attempt, rest⟩ := ended
            obtain ⟨notices, fault, rfl⟩ :=
              hplan.exists_fault_of_prepare hkitchen hlarge hprepare
            exact .refused _ _ _

/-- Two people are served in the nook after its first dinner, which leaves one of
their dishes without a cell. -/
theorem prepare_adopted_endAlike_nook :
    Season.nook.WellFormed ∧
      prepare Generator.source Season.nook Season.nookRooms [⟨0, 2⟩] (fun _ => false) {}
          (.scripted []) =
        some (⟨[.ready 1 1 1 0], .ok Season.nookDinner⟩, .scripted []) ∧
      (prepare Generator.source Season.nookDinner.plan Season.nookRooms [⟨0, 2⟩, ⟨5, 0⟩]
          (fun _ => false) {} (.scripted [0])).isSome ∧
      EndAlike (Season.nookDinner.servings.map Serving.position)
        (prepare Generator.source Season.nookDinner.plan Season.nookRooms [⟨0, 2⟩, ⟨5, 0⟩]
          (fun _ => false) {} (.scripted [0]))
        (prepare Generator.source Season.nook Season.nookRooms [⟨0, 2⟩, ⟨5, 0⟩]
          (Season.nookDinner.mark fun _ => false) {} (.scripted [0])) := by
  have hplan : Season.nook.WellFormed := ⟨by decide, by decide⟩
  exact ⟨hplan, Season.prepare_nook, rfl,
    prepare_adopted_endAlike hplan Season.prepare_nook _ _ _ _ _ _⟩

end DishPlanner

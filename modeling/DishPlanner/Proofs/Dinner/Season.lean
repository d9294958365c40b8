import Mathlib.Logic.Relation
import DishPlanner.Proofs.Dinner.Placement

/-!
# Seasons

A season is a sequence of dinners in one house.  After every dinner its plan is
adopted, or its cells are marked as occupied; rooms, people, settings and random
sources may change from dinner to dinner.  `Season.Sound` is the invariant that
mixes the two ways of keeping a dinner: a served cell is occupied or shows no
floor any more, so no later dinner is served there.
-/

namespace DishPlanner

/-- A dinner of a season. -/
structure Season.Entry where
  servings : List Serving
  /-- The plan with the dishes on it replaced the plan before. -/
  adopted : Bool

/-- A house in the course of its dinners. -/
structure Season where
  plan : FloorPlan
  occupied : Position → Bool
  /-- The dinners so far, the first one first. -/
  entries : List Season.Entry

namespace Season

/-- A season without dinners. -/
def opening (plan : FloorPlan) (occupied : Position → Bool) : Season :=
  ⟨plan, occupied, []⟩

/-- All servings so far. -/
def servings (season : Season) : List Serving := season.entries.flatMap Entry.servings

/-- Some preparation on the current plan ends with a result. -/
def Prepares (season : Season) (result : Except DinnerError Dinner) : Prop :=
  ∃ (σ : Type) (source : Source σ) (rooms : Rooms) (people : List Position)
    (settings : Settings) (state rest : σ) (notices : List Notice),
    prepare source season.plan rooms people season.occupied settings state =
      some (⟨notices, result⟩, rest)

/-- Some cells are marked as occupied, and none as free. -/
def Grows (before after : Position → Bool) : Prop :=
  ∀ position, before position = true → after position = true

/-- One step of a season. -/
inductive Step (season : Season) : Season → Prop
  /-- The plan of a dinner becomes the plan. -/
  | adopt {dinner : Dinner} (hdinner : season.Prepares (.ok dinner)) :
      Step season
        ⟨dinner.plan, season.occupied, season.entries ++ [⟨dinner.servings, true⟩]⟩
  /-- The cells of a dinner are marked as occupied. -/
  | reserve {dinner : Dinner} {occupied : Position → Bool}
      (hdinner : season.Prepares (.ok dinner)) (hgrows : Grows season.occupied occupied)
      (hmarked : ∀ serving ∈ dinner.servings, occupied serving.position = true) :
      Step season
        ⟨season.plan, occupied, season.entries ++ [⟨dinner.servings, false⟩]⟩
  /-- A dinner that is not prepared changes nothing. -/
  | refuse {error : DinnerError} (hrefused : season.Prepares (.error error)) :
      Step season season
  /-- More cells become occupied. -/
  | occupy {occupied : Position → Bool} (hgrows : Grows season.occupied occupied) :
      Step season ⟨season.plan, occupied, season.entries⟩

/-- Any number of steps. -/
abbrev Run : Season → Season → Prop := Relation.ReflTransGen Step

/-- What every season keeps of the plan that it opened with. -/
structure Sound (season : Season) (first : FloorPlan) : Prop where
  wellFormed : season.plan.WellFormed
  onFloor : first.OnFloor season.servings
  taken : ∀ serving ∈ season.servings, season.occupied serving.position = true ∨
    season.plan.tileAt serving.position ≠ some .kitchenFloor
  /-- Floor never comes back. -/
  floor_left : ∀ position, season.plan.tileAt position = some .kitchenFloor →
    first.tileAt position = some .kitchenFloor
  adopted_dish : ∀ entry ∈ season.entries, entry.adopted = true →
    ∀ serving ∈ entry.servings,
      season.plan.tileAt serving.position = some serving.dish.dishTile

theorem sound_opening {plan : FloorPlan} (hplan : plan.WellFormed)
    (occupied : Position → Bool) : (opening plan occupied).Sound plan where
  wellFormed := hplan
  onFloor := ⟨List.nodup_nil, by simp [servings, opening]⟩
  taken := by simp [servings, opening]
  floor_left _ hfloor := hfloor
  adopted_dish := by simp [opening]

theorem servings_append (season : Season) (plan : FloorPlan) (occupied : Position → Bool)
    (entry : Entry) :
    (⟨plan, occupied, season.entries ++ [entry]⟩ : Season).servings =
      season.servings ++ entry.servings := by
  simp [servings]

namespace Sound

variable {season : Season} {first : FloorPlan} {dinner : Dinner}

theorem servedOn (hsound : season.Sound first) (hdinner : season.Prepares (.ok dinner)) :
    dinner.ServedOn season.plan season.occupied := by
  obtain ⟨σ, source, rooms, people, settings, state, rest, notices, hprepare⟩ := hdinner
  exact hsound.wellFormed.servedOn_of_prepare hprepare

/-- A new dinner is served on cells that no earlier one was served on. -/
theorem position_not_mem (hsound : season.Sound first)
    (hserved : dinner.ServedOn season.plan season.occupied) {position : Position}
    (hposition : position ∈ dinner.servings.map Serving.position) :
    position ∉ season.servings.map Serving.position := by
  intro hearlier
  obtain ⟨serving, hserving, rfl⟩ := List.mem_map.mp hposition
  obtain ⟨earlier, hmem, hsame⟩ := List.mem_map.mp hearlier
  rcases hsound.taken earlier hmem with hoccupied | hcovered
  · rw [hsame, hserved.free serving hserving] at hoccupied
    cases hoccupied
  · rw [hsame] at hcovered
    exact hcovered (hserved.onFloor.floor serving hserving)

/-- The servings so far and those of a new dinner are all on different cells of
the first plan's kitchen floor. -/
theorem onFloor_append (hsound : season.Sound first)
    (hserved : dinner.ServedOn season.plan season.occupied) :
    first.OnFloor (season.servings ++ dinner.servings) := by
  constructor
  · rw [List.map_append, List.nodup_append]
    refine ⟨hsound.onFloor.nodup_positions, hserved.onFloor.nodup_positions, ?_⟩
    rintro position hearlier _ hposition rfl
    exact hsound.position_not_mem hserved hposition hearlier
  · intro serving hserving
    rcases List.mem_append.mp hserving with hearlier | hnew
    · exact hsound.onFloor.floor serving hearlier
    · exact hsound.floor_left _ (hserved.onFloor.floor serving hnew)

/-- A new dinner leaves the cells of the earlier ones as they are. -/
theorem tileAt_earlier (hsound : season.Sound first)
    (hserved : dinner.ServedOn season.plan season.occupied) {serving : Serving}
    (hearlier : serving ∈ season.servings) :
    dinner.plan.tileAt serving.position = season.plan.tileAt serving.position := by
  apply hserved.tileAt_of_not_mem hsound.wellFormed
  intro hposition
  exact hsound.position_not_mem hserved hposition (List.mem_map_of_mem hearlier)

theorem adopt (hsound : season.Sound first) (hdinner : season.Prepares (.ok dinner)) :
    Sound ⟨dinner.plan, season.occupied, season.entries ++ [⟨dinner.servings, true⟩]⟩
      first := by
  have hserved := hsound.servedOn hdinner
  have hplan := hsound.wellFormed
  refine ⟨hserved.wellFormed hplan, ?_, ?_, ?_, ?_⟩
  · rw [servings_append]
    exact hsound.onFloor_append hserved
  · intro serving hserving
    rw [servings_append] at hserving
    rcases List.mem_append.mp hserving with hearlier | hnew
    · rw [hsound.tileAt_earlier hserved hearlier]
      exact hsound.taken serving hearlier
    · right
      rw [hserved.tileAt_of_mem hplan hnew, ne_eq, Option.some.injEq]
      exact serving.dish.dishTile_ne_kitchenFloor
  · intro position hfloor
    by_cases hposition : position ∈ dinner.servings.map Serving.position
    · obtain ⟨serving, hserving, rfl⟩ := List.mem_map.mp hposition
      exact hsound.floor_left _ (hserved.onFloor.floor serving hserving)
    · rw [hserved.tileAt_of_not_mem hplan hposition] at hfloor
      exact hsound.floor_left position hfloor
  · intro entry hentry hadopted serving hserving
    rcases List.mem_append.mp hentry with hearlier | hnew
    · have hmem : serving ∈ season.servings :=
        List.mem_flatMap.mpr ⟨entry, hearlier, hserving⟩
      rw [hsound.tileAt_earlier hserved hmem]
      exact hsound.adopted_dish entry hearlier hadopted serving hserving
    · rw [List.mem_singleton.mp hnew] at hserving
      exact hserved.tileAt_of_mem hplan hserving

theorem reserve (hsound : season.Sound first) (hdinner : season.Prepares (.ok dinner))
    {occupied : Position → Bool} (hgrows : Grows season.occupied occupied)
    (hmarked : ∀ serving ∈ dinner.servings, occupied serving.position = true) :
    Sound ⟨season.plan, occupied, season.entries ++ [⟨dinner.servings, false⟩]⟩
      first := by
  refine ⟨hsound.wellFormed, ?_, ?_, hsound.floor_left, ?_⟩
  · rw [servings_append]
    exact hsound.onFloor_append (hsound.servedOn hdinner)
  · intro serving hserving
    rw [servings_append] at hserving
    rcases List.mem_append.mp hserving with hearlier | hnew
    · exact (hsound.taken serving hearlier).imp_left (hgrows _)
    · exact .inl (hmarked serving hnew)
  · intro entry hentry hadopted
    rcases List.mem_append.mp hentry with hearlier | hnew
    · exact hsound.adopted_dish entry hearlier hadopted
    · rw [List.mem_singleton.mp hnew] at hadopted
      cases hadopted

theorem occupy (hsound : season.Sound first) {occupied : Position → Bool}
    (hgrows : Grows season.occupied occupied) :
    Sound ⟨season.plan, occupied, season.entries⟩ first where
  wellFormed := hsound.wellFormed
  onFloor := hsound.onFloor
  taken serving hserving := (hsound.taken serving hserving).imp_left (hgrows _)
  floor_left := hsound.floor_left
  adopted_dish := hsound.adopted_dish

theorem step (hsound : season.Sound first) {next : Season} (hstep : season.Step next) :
    next.Sound first := by
  cases hstep with
  | adopt hdinner => exact hsound.adopt hdinner
  | reserve hdinner hgrows hmarked => exact hsound.reserve hdinner hgrows hmarked
  | refuse hrefused => exact hsound
  | occupy hgrows => exact hsound.occupy hgrows

theorem run (hsound : season.Sound first) {last : Season} (hrun : season.Run last) :
    last.Sound first := by
  induction hrun with
  | refl => exact hsound
  | tail _ hstep ih => exact ih.step hstep

end Sound

/-- A step only adds to the dinners so far. -/
theorem Step.entries_prefix {season next : Season} (hstep : season.Step next) :
    season.entries <+: next.entries := by
  cases hstep with
  | adopt hdinner => exact List.prefix_append _ _
  | reserve hdinner hgrows hmarked => exact List.prefix_append _ _
  | refuse hrefused => exact List.prefix_rfl
  | occupy hgrows => exact List.prefix_rfl

theorem Run.entries_prefix {season last : Season} (hrun : season.Run last) :
    season.entries <+: last.entries := by
  induction hrun with
  | refl => exact List.prefix_rfl
  | tail _ hstep ih => exact ih.trans hstep.entries_prefix

/-- No cell is served twice in a season, every served cell was kitchen floor at
the opening, and the dishes of an adopted plan stay visible for ever. -/
theorem run_serves_once {plan : FloorPlan} (hplan : plan.WellFormed)
    (occupied : Position → Bool) {season last : Season}
    (hearlier : (opening plan occupied).Run season) (hlater : season.Run last) :
    (last.servings.map Serving.position).Nodup ∧
      (∀ serving ∈ last.servings,
        plan.read serving.position = .ok (some .kitchenFloor)) ∧
      last.servings.length ≤ plan.tiles.count .kitchenFloor ∧
      ∀ entry ∈ season.entries, entry.adopted = true →
        ∀ serving ∈ entry.servings,
          last.plan.read serving.position = .ok (some serving.dish.dishTile) := by
  have hsound := (sound_opening hplan occupied).run (hearlier.trans hlater)
  refine ⟨hsound.onFloor.nodup_positions, ?_, hsound.onFloor.length_le_count hplan, ?_⟩
  · intro serving hserving
    rw [hplan.read_eq, hsound.onFloor.floor serving hserving]
  · intro entry hentry hadopted serving hserving
    have hkept := (Run.entries_prefix hlater).subset hentry
    rw [hsound.wellFormed.read_eq, hsound.adopted_dish entry hkept hadopted serving hserving]

/-! ## A season in a nook of two cells -/

/-- Two cells of kitchen floor and a wall. -/
def nook : FloorPlan := ⟨1, 3, #[.kitchenFloor, .kitchenFloor, .wall]⟩

/-- The whole nook is the kitchen. -/
def nookRooms : Rooms := .ofList [(Rooms.kitchenKey, ⟨⟨0, 1⟩, ⟨0, 3⟩⟩)]

/-- The nook after a dinner for one whose plan was adopted. -/
def nookAdopted : Season where
  plan := ⟨1, 3, #[.kitchenFloor, .veganDish, .wall]⟩
  occupied := fun _ => false
  entries := [⟨[⟨⟨0, 1⟩, .vegan⟩], true⟩]

/-- The nook after a second dinner whose cell was marked as occupied. -/
def nookReserved : Season where
  plan := ⟨1, 3, #[.kitchenFloor, .veganDish, .wall]⟩
  occupied := fun position => position = ⟨0, 0⟩
  entries := [⟨[⟨⟨0, 1⟩, .vegan⟩], true⟩, ⟨[⟨⟨0, 0⟩, .vegan⟩], false⟩]

/-- The first dinner of `nookAdopted`. -/
def nookDinner : Dinner where
  plan := nookAdopted.plan
  roll := .ofDiets [.vegan]
  servings := [⟨⟨0, 1⟩, .vegan⟩]
  unplaced := []

theorem prepare_nook :
    prepare Generator.source nook nookRooms [⟨0, 2⟩] (fun _ => false) {} (.scripted []) =
      some (⟨[.ready 1 1 1 0], .ok nookDinner⟩, .scripted []) := rfl

theorem run_nookAdopted : (opening nook fun _ => false).Run nookAdopted := by
  have hdinner : (opening nook fun _ => false).Prepares (.ok nookDinner) :=
    ⟨_, _, _, _, _, _, _, _, prepare_nook⟩
  have hstep : (opening nook fun _ => false).Step nookAdopted := .adopt hdinner
  exact .single hstep

theorem run_nookReserved : nookAdopted.Run nookReserved := by
  have hprepare : prepare Generator.source nookAdopted.plan nookRooms [⟨0, 2⟩]
      (fun _ => false) {} (.scripted []) =
        some (⟨[.ready 1 1 1 0], .ok ⟨⟨1, 3, #[.veganDish, .veganDish, .wall]⟩,
          .ofDiets [.vegan], [⟨⟨0, 0⟩, .vegan⟩], []⟩⟩, .scripted []) := rfl
  refine .single (.reserve ⟨_, _, _, _, _, _, _, _, hprepare⟩ ?_ ?_)
  · intro position hoccupied
    cases hoccupied
  · simp

theorem run_serves_once_nook :
    nook.WellFormed ∧ (opening nook fun _ => false).Run nookAdopted ∧
      nookAdopted.Run nookReserved ∧
      (nookReserved.servings.map Serving.position).Nodup ∧
      (∀ serving ∈ nookReserved.servings,
        nook.read serving.position = .ok (some .kitchenFloor)) ∧
      nookReserved.servings.length ≤ nook.tiles.count .kitchenFloor ∧
      ∀ entry ∈ nookAdopted.entries, entry.adopted = true →
        ∀ serving ∈ entry.servings,
          nookReserved.plan.read serving.position = .ok (some serving.dish.dishTile) := by
  have hplan : nook.WellFormed := ⟨by decide, by decide⟩
  exact ⟨hplan, run_nookAdopted, run_nookReserved,
    run_serves_once hplan _ run_nookAdopted run_nookReserved⟩

end Season

end DishPlanner

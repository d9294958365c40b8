import DishPlanner.Proofs.Dinner.Balance
import DishPlanner.Proofs.Floor.Map
import DishPlanner.Proofs.House.Guests

/-!
# People at dinner

People are shown on the plan of a dinner after its dishes were laid.  Dishes are laid
on cells where nobody stands, so nobody covers a dish, however many people there are.
On the map of a plan without marks of its own, people and dishes are found by their
characters and counted by them.
-/

namespace DishPlanner

variable {plan shown : FloorPlan} {dinner : Dinner} {people : List Position}
  {occupied : Position → Bool}

/-- A plan that shows every dish of a dinner, every one of the people who stands inside,
and elsewhere what the plan showed before the dinner. -/
structure Dinner.Shown (dinner : Dinner) (plan : FloorPlan) (people : List Position)
    (shown : FloorPlan) : Prop where
  wellFormed : shown.WellFormed
  rows_eq : shown.rows = plan.rows
  columns_eq : shown.columns = plan.columns
  apart : ∀ serving ∈ dinner.servings, serving.position ∉ people
  read_serving : ∀ serving ∈ dinner.servings,
    shown.read serving.position = .ok (some serving.dish.dishTile)
  read_person : ∀ position ∈ people, plan.Covers position →
    shown.read position = .ok (some .occupant)
  read_other : ∀ position, position ∉ people →
    position ∉ dinner.servings.map Serving.position → shown.read position = plan.read position

/-- People who stand where dishes may not be laid hide none of them. -/
theorem Dinner.ServedOn.exists_shown (hserved : dinner.ServedOn plan occupied)
    (hplan : plan.WellFormed) (hpeople : ∀ position ∈ people, occupied position = true) :
    ∃ shown, dinner.plan.showPeople people = .ok shown ∧ dinner.Shown plan people shown := by
  have hdinner := hserved.wellFormed hplan
  have hshown := hdinner.stamp people .occupant
  have hfree : ∀ serving ∈ dinner.servings, serving.position ∉ people := by
    intro serving hserving hperson
    have hoccupied := hpeople _ hperson
    rw [hserved.free serving hserving] at hoccupied
    cases hoccupied
  refine ⟨dinner.plan.stamp people .occupant, hdinner.showPeople_eq people, ?_⟩
  exact {
    wellFormed := hshown
    rows_eq := by rw [FloorPlan.rows_stamp, hserved.rows_eq]
    columns_eq := by rw [FloorPlan.columns_stamp, hserved.columns_eq]
    apart := hfree
    read_serving := by
      intro serving hserving
      rw [hshown.read_eq, hdinner.tileAt_stamp, if_neg fun hhidden => hfree _ hserving hhidden.1,
        hserved.tileAt_of_mem hplan hserving]
    read_person := by
      intro position hposition hcovers
      have hinside := hcovers.of_size_eq hserved.rows_eq.symm hserved.columns_eq.symm
      rw [hshown.read_eq, hdinner.tileAt_stamp, if_pos ⟨hposition, hinside⟩]
    read_other := by
      intro position hposition hserving
      rw [hshown.read_eq, hdinner.tileAt_stamp, if_neg fun hhidden => hposition hhidden.1,
        hserved.tileAt_of_not_mem hplan hserving, hplan.read_eq] }

/-! ## Maps with people and dishes -/

/-- The characters of people, of dishes and of the end of a line. -/
def markCodes : List Char := ['P', 'V', 'N', '\n']

/-- No tile of the plan is drawn like a person, a dish or the end of a line. -/
def FloorPlan.Unmarked (plan : FloorPlan) : Prop :=
  ∀ tile ∈ plan.tiles, tile.code ∉ markCodes

instance (plan : FloorPlan) : Decidable plan.Unmarked :=
  inferInstanceAs (Decidable (∀ tile ∈ plan.tiles, _))

/-- A map of a plan that shows people and dishes by their characters, exactly where they
are, and the tiles of the plan everywhere else. -/
structure FloorPlan.ClearMap (plan : FloorPlan) (people : List Position)
    (servings : List Serving) (map : String) : Prop where
  lines_eq : (cutLines map).length = plan.rows
  width_eq : ∀ line ∈ cutLines map, line.length = plan.columns
  person_iff : ∀ position, codeAt map position = some 'P' ↔ position ∈ people
  vegan_iff : ∀ position, codeAt map position = some 'V' ↔ ⟨position, .vegan⟩ ∈ servings
  nonVegetarian_iff : ∀ position,
    codeAt map position = some 'N' ↔ ⟨position, .nonVegetarian⟩ ∈ servings
  other_eq : ∀ position, position ∉ people → position ∉ servings.map Serving.position →
    ∃ tile, plan.read position = .ok tile ∧ codeAt map position = tile.map Tile.code
  count_people : map.toList.count 'P' = people.length
  count_dishes : map.toList.count 'V' + map.toList.count 'N' = servings.length

theorem mem_dishPositions {servings : List Serving} {dish : Diet} {position : Position} :
    position ∈ dishPositions servings dish ↔ ⟨position, dish⟩ ∈ servings := by
  simp only [dishPositions, List.mem_map, List.mem_filter, decide_eq_true_eq]
  constructor
  · rintro ⟨serving, ⟨hserving, rfl⟩, rfl⟩
    exact hserving
  · intro hserving
    exact ⟨_, ⟨hserving, rfl⟩, rfl⟩

theorem FloorPlan.Unmarked.not_mem_markCodes (hunmarked : plan.Unmarked) (hplan : plan.WellFormed)
    {position : Position} {tile : Tile} (htile : plan.tileAt position = some tile) :
    tile.code ∉ markCodes :=
  hunmarked tile (hplan.mem_tiles_iff.mpr ⟨position, htile⟩)

namespace Diet

theorem code_dishTile_ne_occupant (diet : Diet) : diet.dishTile.code ≠ 'P' := by
  cases diet <;> decide

theorem code_dishTile_ne_lineFeed (diet : Diet) : diet.dishTile.code ≠ '\n' := by
  cases diet <;> decide

theorem code_dishTile_mem_markCodes (diet : Diet) : diet.dishTile.code ∈ markCodes := by
  cases diet <;> decide

theorem code_dishTile_injective : Function.Injective fun diet : Diet => diet.dishTile.code := by
  intro left right hequal
  cases left <;> cases right <;> first | rfl | exact absurd hequal (by decide)

end Diet

namespace Dinner.Shown

variable {map : String} {position : Position}

theorem tileAt_person (hshown : dinner.Shown plan people shown) (hposition : position ∈ people)
    (hcovers : plan.Covers position) : shown.tileAt position = some .occupant := by
  have hread := hshown.read_person position hposition hcovers
  rwa [hshown.wellFormed.read_eq, Except.ok.injEq] at hread

theorem tileAt_serving (hshown : dinner.Shown plan people shown) {serving : Serving}
    (hserving : serving ∈ dinner.servings) :
    shown.tileAt serving.position = some serving.dish.dishTile := by
  have hread := hshown.read_serving serving hserving
  rwa [hshown.wellFormed.read_eq, Except.ok.injEq] at hread

theorem tileAt_other (hshown : dinner.Shown plan people shown) (hplan : plan.WellFormed)
    (hposition : position ∉ people)
    (hlaid : position ∉ dinner.servings.map Serving.position) :
    shown.tileAt position = plan.tileAt position := by
  have hread := hshown.read_other position hposition hlaid
  rwa [hshown.wellFormed.read_eq, hplan.read_eq, Except.ok.injEq] at hread

/-- What is shown is a person, a dish or a tile of the plan. -/
theorem tileAt_cases (hshown : dinner.Shown plan people shown) (hplan : plan.WellFormed)
    {tile : Tile} (htile : shown.tileAt position = some tile) :
    (position ∈ people ∧ tile = .occupant) ∨
      (∃ serving ∈ dinner.servings, serving.position = position ∧
        tile = serving.dish.dishTile) ∨
      plan.tileAt position = some tile := by
  by_cases hposition : position ∈ people
  · have hcovers := (FloorPlan.covers_of_tileAt_eq_some htile).of_size_eq hshown.rows_eq
      hshown.columns_eq
    rw [hshown.tileAt_person hposition hcovers] at htile
    exact .inl ⟨hposition, (Option.some.inj htile).symm⟩
  · by_cases hlaid : position ∈ dinner.servings.map Serving.position
    · obtain ⟨serving, hserving, rfl⟩ := List.mem_map.mp hlaid
      rw [hshown.tileAt_serving hserving] at htile
      exact .inr (.inl ⟨serving, hserving, rfl, (Option.some.inj htile).symm⟩)
    · rw [hshown.tileAt_other hplan hposition hlaid] at htile
      exact .inr (.inr htile)

section Marks

variable (hshown : dinner.Shown plan people shown) (hplan : plan.WellFormed)
  (hunmarked : plan.Unmarked)

include hshown hplan hunmarked

theorem code_ne_lineFeed : ∀ tile ∈ shown.tiles, tile.code ≠ '\n' := by
  intro tile htile
  obtain ⟨position, htile⟩ := hshown.wellFormed.mem_tiles_iff.mp htile
  rcases hshown.tileAt_cases hplan htile with ⟨-, rfl⟩ | ⟨serving, -, -, rfl⟩ | htile
  · decide
  · exact serving.dish.code_dishTile_ne_lineFeed
  · intro hfeed
    exact hunmarked.not_mem_markCodes hplan htile (by rw [hfeed]; decide)

variable (hmap : shown.MappedBy map)

include hmap

theorem person_iff (hcovers : ∀ position ∈ people, plan.Covers position)
    (position : Position) :
    codeAt map position = some 'P' ↔ position ∈ people := by
  rw [hmap.codeAt_eq]
  constructor
  · intro hcode
    obtain ⟨tile, htile, hcode⟩ := Option.map_eq_some_iff.mp hcode
    rcases hshown.tileAt_cases hplan htile with ⟨hposition, -⟩ | ⟨serving, -, -, rfl⟩ | htile
    · exact hposition
    · exact absurd hcode serving.dish.code_dishTile_ne_occupant
    · exact absurd (by rw [hcode]; decide) (hunmarked.not_mem_markCodes hplan htile)
  · intro hposition
    rw [hshown.tileAt_person hposition (hcovers position hposition)]
    rfl

theorem dish_iff (diet : Diet) (position : Position) :
    codeAt map position = some diet.dishTile.code ↔ ⟨position, diet⟩ ∈ dinner.servings := by
  rw [hmap.codeAt_eq]
  constructor
  · intro hcode
    obtain ⟨tile, htile, hcode⟩ := Option.map_eq_some_iff.mp hcode
    rcases hshown.tileAt_cases hplan htile with ⟨-, rfl⟩ | ⟨serving, hserving, rfl, rfl⟩ | htile
    · exact absurd hcode.symm diet.code_dishTile_ne_occupant
    · rwa [← Diet.code_dishTile_injective hcode]
    · exact absurd (hcode ▸ diet.code_dishTile_mem_markCodes)
        (hunmarked.not_mem_markCodes hplan htile)
  · intro hserving
    rw [hshown.tileAt_serving hserving]
    rfl

/-- A map that shows everyone and everything is clear if people and dishes stand on
different cells each. -/
theorem clearMap (hcovers : ∀ position ∈ people, plan.Covers position)
    (hpeople : people.Nodup)
    (hservings : (dinner.servings.map Serving.position).Nodup) :
    plan.ClearMap people dinner.servings map := by
  have hperson := hshown.person_iff hplan hunmarked hmap hcovers
  have hdish := hshown.dish_iff hplan hunmarked hmap
  have hcount : ∀ diet : Diet, map.toList.count diet.dishTile.code =
      (dinner.servings.map Serving.dish).count diet := by
    intro diet
    have hnodup : (dishPositions dinner.servings diet).Nodup :=
      hservings.sublist (List.filter_sublist.map _)
    rw [hmap.count_eq_length diet.code_dishTile_ne_lineFeed hnodup fun position =>
      (hdish diet position).trans mem_dishPositions.symm, length_dishPositions]
  exact {
    lines_eq := by rw [hmap.lines_eq, hshown.rows_eq]
    width_eq := by
      intro line hline
      rw [hmap.width_eq line hline, hshown.columns_eq]
    person_iff := hperson
    vegan_iff := hdish .vegan
    nonVegetarian_iff := hdish .nonVegetarian
    other_eq := by
      intro position hposition hlaid
      exact ⟨_, hplan.read_eq position,
        by rw [hmap.codeAt_eq, hshown.tileAt_other hplan hposition hlaid]⟩
    count_people := hmap.count_eq_length (by decide) hpeople hperson
    count_dishes := by
      have hboth := Roll.count_vegan_add_count_nonVegetarian (dinner.servings.map Serving.dish)
      rw [List.length_map, ← hcount, ← hcount] at hboth
      exact hboth }

end Marks

end Dinner.Shown

end DishPlanner

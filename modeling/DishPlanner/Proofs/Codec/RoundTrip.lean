import DishPlanner.Codec.Dinner
import DishPlanner.Proofs.Codec.Lossless

/-!
# JSON round trips

Every value that the planner exchanges survives its JSON form: tiles, diets,
positions, spans, zones, plans, servings, settings and tallies.  Nothing is asked
of a value beyond what its machine representation enforces, that its numbers are
words: zones may be inverted, and plans may hold any number of tiles.
-/

namespace DishPlanner

/-! ## Alternatives -/

theorem Tile.lossless : Json.Lossless Tile.toJson Tile.ofJson fun _ => True where
  decode_encode tile := by
    cases tile with
    | other code =>
        change (Json.toChar (Json.ofChar code)).map Tile.other = _
        rw [Json.lossless_char.decode_encode]
        rfl
    | _ => rfl
  inWords tile _ := by
    cases tile with
    | other code => exact .object (List.forall_mem_singleton.mpr (.string _))
    | _ => exact .string _

theorem Diet.lossless : Json.Lossless Diet.toJson Diet.ofJson fun _ => True where
  decode_encode diet := by cases diet <;> rfl
  inWords diet _ := .string diet.name

/-! ## Places -/

/-- Both coordinates are words. -/
def Position.Fits (position : Position) : Prop :=
  position.row < wordCount ∧ position.column < wordCount

theorem Position.describe (position : Position) :
    Position.fields.Describe [("row", .ofNat position.row), ("col", .ofNat position.column)]
      position :=
  Json.Fields.describe_none Position.mk
    |>.required (by simp) Json.lossless_size position.row
    |>.required (by simp) Json.lossless_size position.column

theorem Position.lossless : Json.Lossless Position.toJson Position.ofJson Position.Fits := by
  refine .record Position.describe (fun position hfits => ?_) "Coord" false _
  simp only [List.forall_mem_cons]
  exact ⟨.natural hfits.1, .natural hfits.2, nofun⟩

/-- Both ends are words, in any order. -/
def Span.Fits (span : Span) : Prop := span.start < wordCount ∧ span.stop < wordCount

theorem Span.describe (span : Span) :
    Span.fields.Describe [("start", .ofNat span.start), ("end", .ofNat span.stop)] span :=
  Json.Fields.describe_none Span.mk
    |>.required (by simp) Json.lossless_size span.start
    |>.required (by simp) Json.lossless_size span.stop

theorem Span.lossless : Json.Lossless Span.toJson Span.ofJson Span.Fits := by
  refine .record Span.describe (fun span hfits => ?_) "Range" true _
  simp only [List.forall_mem_cons]
  exact ⟨.natural hfits.1, .natural hfits.2, nofun⟩

/-- All four ends are words. -/
def Zone.Fits (zone : Zone) : Prop := zone.rows.Fits ∧ zone.columns.Fits

theorem Zone.describe (zone : Zone) :
    Zone.fields.Describe [("rows", zone.rows.toJson), ("cols", zone.columns.toJson)] zone :=
  Json.Fields.describe_none Zone.mk
    |>.required (by simp) Span.lossless zone.rows
    |>.required (by simp) Span.lossless zone.columns

theorem Zone.lossless : Json.Lossless Zone.toJson Zone.ofJson Zone.Fits := by
  refine .record Zone.describe (fun zone hfits => ?_) "RoomRegion" false _
  simp only [List.forall_mem_cons]
  exact ⟨Span.lossless.inWords _ hfits.1, Span.lossless.inWords _ hfits.2, nofun⟩

/-! ## Plans -/

/-- Height and width are words; the tiles need not fill the rectangle. -/
def FloorPlan.Fits (plan : FloorPlan) : Prop := plan.rows < wordCount ∧ plan.columns < wordCount

theorem FloorPlan.tiles_lossless :
    Json.Lossless (fun tiles : Array Tile => .ofList Tile.toJson tiles.toList)
      FloorPlan.tilesOfJson fun _ => True where
  decode_encode tiles := by
    rw [FloorPlan.tilesOfJson, Tile.lossless.list.decode_encode]
    rfl
  inWords tiles _ := Tile.lossless.list.inWords tiles.toList fun _ _ => trivial

theorem FloorPlan.describe (plan : FloorPlan) :
    FloorPlan.fields.Describe
      [("rows", .ofNat plan.rows), ("cols", .ofNat plan.columns),
        ("cells", .ofList Tile.toJson plan.tiles.toList)] plan :=
  Json.Fields.describe_none FloorPlan.mk
    |>.required (by simp) Json.lossless_size plan.rows
    |>.required (by simp) Json.lossless_size plan.columns
    |>.required (by simp) FloorPlan.tiles_lossless plan.tiles

theorem FloorPlan.lossless :
    Json.Lossless FloorPlan.toJson FloorPlan.ofJson FloorPlan.Fits := by
  refine .record FloorPlan.describe (fun plan hfits => ?_) "Grid" false _
  simp only [List.forall_mem_cons]
  exact ⟨.natural hfits.1, .natural hfits.2, FloorPlan.tiles_lossless.inWords _ trivial, nofun⟩

/-! ## Dinners -/

theorem Serving.describe (serving : Serving) :
    Serving.fields.Describe
      [("row", .ofNat serving.position.row), ("col", .ofNat serving.position.column),
        ("dish", serving.dish.toJson)] serving :=
  Json.Fields.describe_none (fun row column dish => Serving.mk ⟨row, column⟩ dish)
    |>.required (by simp) Json.lossless_size serving.position.row
    |>.required (by simp) Json.lossless_size serving.position.column
    |>.required (by simp) Diet.lossless serving.dish

theorem Serving.lossless :
    Json.Lossless Serving.toJson Serving.ofJson fun serving => serving.position.Fits := by
  refine .record Serving.describe (fun serving hfits => ?_) "DishPlacement" false _
  simp only [List.forall_mem_cons]
  exact ⟨.natural hfits.1, .natural hfits.2, Diet.lossless.inWords _ trivial, nofun⟩

theorem Settings.seed_lossless :
    Json.Lossless (.ofOption fun seed : UInt64 => .ofNat seed.toNat) Json.toSeed?
      fun _ => True where
  decode_encode seed := by
    cases seed with
    | none => rfl
    | some seed =>
        change Except.ok (some (UInt64.ofNat seed.toNat)) = _
        rw [UInt64.ofNat_toNat]
  inWords seed _ := by
    cases seed with
    | none => exact .null
    | some seed => exact .natural seed.toNat_lt

theorem Settings.describe (settings : Settings) :
    Settings.fields.Describe
      [("kitchen_key", .ofChar settings.kitchenKey),
        ("seed", .ofOption (fun seed => .ofNat seed.toNat) settings.seed)] settings :=
  Json.Fields.describe_none Settings.mk
    |>.required (by simp) Json.lossless_char settings.kitchenKey
    |>.optional (by simp) Settings.seed_lossless none settings.seed

theorem Settings.lossless :
    Json.Lossless Settings.toJson Settings.ofJson fun _ => True := by
  refine .record Settings.describe (fun settings _ => ?_) "DishConfig" false _
  simp only [List.forall_mem_cons]
  exact ⟨.string _, Settings.seed_lossless.inWords _ trivial, nofun⟩

/-- All counts, persons and coordinates are words. -/
structure Tally.Fits (tally : Tally) : Prop where
  people : tally.people < wordCount
  vegans : ∀ person ∈ tally.vegans, person < wordCount
  nonVegetarians : ∀ person ∈ tally.nonVegetarians, person < wordCount
  veganCount : tally.veganCount < wordCount
  nonVegetarianCount : tally.nonVegetarianCount < wordCount
  veganDishes : ∀ position ∈ tally.veganDishes, position.Fits
  nonVegetarianDishes : ∀ position ∈ tally.nonVegetarianDishes, position.Fits
  veganDishCount : tally.veganDishCount < wordCount
  nonVegetarianDishCount : tally.nonVegetarianDishCount < wordCount

theorem Tally.describe (tally : Tally) :
    Tally.fields.Describe
      [("total_people", .ofNat tally.people),
        ("vegan_people", .ofList .ofNat tally.vegans),
        ("non_vegetarian_people", .ofList .ofNat tally.nonVegetarians),
        ("vegan_people_count", .ofNat tally.veganCount),
        ("non_vegetarian_people_count", .ofNat tally.nonVegetarianCount),
        ("vegan_dishes_positions", .ofList Position.toJson tally.veganDishes),
        ("non_vegetarian_dishes_positions", .ofList Position.toJson tally.nonVegetarianDishes),
        ("vegan_dishes_count", .ofNat tally.veganDishCount),
        ("non_vegetarian_dishes_count", .ofNat tally.nonVegetarianDishCount)] tally :=
  Json.Fields.describe_none Tally.mk
    |>.required (by simp) Json.lossless_size tally.people
    |>.required (by simp) Json.lossless_size.list tally.vegans
    |>.required (by simp) Json.lossless_size.list tally.nonVegetarians
    |>.required (by simp) Json.lossless_size tally.veganCount
    |>.required (by simp) Json.lossless_size tally.nonVegetarianCount
    |>.required (by simp) Position.lossless.list tally.veganDishes
    |>.required (by simp) Position.lossless.list tally.nonVegetarianDishes
    |>.required (by simp) Json.lossless_size tally.veganDishCount
    |>.required (by simp) Json.lossless_size tally.nonVegetarianDishCount

theorem Tally.lossless : Json.Lossless Tally.toJson Tally.ofJson Tally.Fits := by
  refine .record Tally.describe (fun tally hfits => ?_) "DishSummary" false _
  simp only [List.forall_mem_cons]
  exact ⟨.natural hfits.people, Json.lossless_size.list.inWords _ hfits.vegans,
    Json.lossless_size.list.inWords _ hfits.nonVegetarians, .natural hfits.veganCount,
    .natural hfits.nonVegetarianCount, Position.lossless.list.inWords _ hfits.veganDishes,
    Position.lossless.list.inWords _ hfits.nonVegetarianDishes, .natural hfits.veganDishCount,
    .natural hfits.nonVegetarianDishCount, nofun⟩

/-! ## All formats -/

/-- Every format of the planner round-trips, as a value and in both text layouts. -/
theorem formats_roundTrip :
    Json.RoundTrips Tile.toJson Tile.ofJson (fun _ => True) ∧
      Json.RoundTrips Position.toJson Position.ofJson Position.Fits ∧
      Json.RoundTrips Zone.toJson Zone.ofJson Zone.Fits ∧
      Json.RoundTrips FloorPlan.toJson FloorPlan.ofJson FloorPlan.Fits ∧
      Json.RoundTrips Diet.toJson Diet.ofJson (fun _ => True) ∧
      Json.RoundTrips Serving.toJson Serving.ofJson (fun serving => serving.position.Fits) ∧
      Json.RoundTrips Tally.toJson Tally.ofJson Tally.Fits ∧
      Json.RoundTrips Settings.toJson Settings.ofJson (fun _ => True) :=
  ⟨Tile.lossless.roundTrips, Position.lossless.roundTrips, Zone.lossless.roundTrips,
    FloorPlan.lossless.roundTrips, Diet.lossless.roundTrips, Serving.lossless.roundTrips,
    Tally.lossless.roundTrips, Settings.lossless.roundTrips⟩

/-- A plan whose tiles do not fill it, with codes that need an escape. -/
def FloorPlan.raw : FloorPlan where
  rows := wordCount - 1
  columns := 3
  tiles := #[.other '"', .other '\\', .other '\n', .other '\x00', .other 'K', .kitchenFloor]

/-- A zone with both spans the wrong way round. -/
def Zone.inverted : Zone := ⟨⟨wordCount - 1, 0⟩, ⟨5, 2⟩⟩

theorem formats_roundTrip_raw :
    FloorPlan.raw.Fits ∧ Zone.inverted.Fits ∧
      (Json.parse FloorPlan.raw.toJson.compact).map FloorPlan.ofJson = some (.ok FloorPlan.raw) ∧
      (Json.parse FloorPlan.raw.toJson.pretty).map FloorPlan.ofJson = some (.ok FloorPlan.raw) ∧
      (Json.parse Zone.inverted.toJson.compact).map Zone.ofJson = some (.ok Zone.inverted) := by
  have hplan : FloorPlan.raw.Fits := ⟨by decide, by decide⟩
  have hzone : Zone.inverted.Fits := ⟨⟨by decide, by decide⟩, ⟨by decide, by decide⟩⟩
  obtain ⟨-, -, hzones, hplans, -⟩ := formats_roundTrip
  exact ⟨hplan, hzone, hplans.decode_compact _ hplan, hplans.decode_pretty _ hplan,
    hzones.decode_compact _ hzone⟩

end DishPlanner

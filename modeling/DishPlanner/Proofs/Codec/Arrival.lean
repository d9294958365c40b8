import Mathlib.Data.List.Forall2
import DishPlanner.Proofs.Codec.RoundTrip
import DishPlanner.Proofs.Dinner.Wholeness
import DishPlanner.Proofs.Report.Partition

/-!
# Plans that arrive as documents

A document of a plan says a height and a width and lists tiles.  The decoder takes the
three as they stand and compares nothing, so every height and width arrive with every
list of tiles.  Such a plan is well-formed exactly if the document lists as many tiles
as the rectangle is large, no operation on it stops on a fault exactly if it lists at
least as many, and where it lists fewer every operation can be made to stop.
-/

namespace DishPlanner

/-! ## Steps that can fail -/

section Steps

variable {ε α β : Type} {result : β}

theorem bind_eq_ok_iff {first : Except ε α} {next : α → Except ε β} :
    (first >>= next) = .ok result ↔ ∃ value, first = .ok value ∧ next value = .ok result := by
  cases first with
  | error failure => simp [bind, Except.bind]
  | ok value => simp [bind, Except.bind]

theorem map_eq_ok_iff {first : Except ε α} {change : α → β} :
    first.map change = .ok result ↔ ∃ value, first = .ok value ∧ change value = result := by
  cases first with
  | error failure => simp [Except.map]
  | ok value => simp [Except.map]

/-- A list is read where its items are, one by one. -/
theorem mapM_eq_ok_iff_forall₂ {read : α → Except ε β} {items : List α} {values : List β} :
    items.mapM read = .ok values ↔
      List.Forall₂ (fun item value => read item = .ok value) items values := by
  induction items generalizing values with
  | nil =>
      simp only [List.mapM_nil, pure, Except.pure, Except.ok.injEq, List.forall₂_nil_left_iff,
        eq_comm]
  | cons item items ih =>
      simp only [List.mapM_cons, bind_eq_ok_iff, ih, pure, Except.pure, Except.ok.injEq,
        List.forall₂_cons_left_iff]
      constructor
      · rintro ⟨value, hvalue, rest, hrest, rfl⟩
        exact ⟨value, rest, hvalue, hrest, rfl⟩
      · rintro ⟨value, rest, hvalue, hrest, rfl⟩
        exact ⟨value, hvalue, rest, hrest, rfl⟩

end Steps

namespace Json

variable {α β : Type} {decode : Decoder α} {json part : Json} {name : String}

/-! ## Scalars and lists -/

theorem toNat_eq_ok_iff {expected : Expected} {value : Nat} :
    toNat expected json = .ok value ↔ json = .ofNat value := by
  constructor
  · intro hvalue
    unfold toNat at hvalue
    split at hvalue
    · cases hvalue
      rfl
    · cases hvalue
    · cases hvalue
  · rintro rfl
    rfl

theorem toList_eq_ok_iff {values : List α} :
    toList decode json = .ok values ↔ ∃ items, json = .array items ∧
      List.Forall₂ (fun item value => decode item = .ok value) items values := by
  cases json with
  | array items => simp [toList, mapM_eq_ok_iff_forall₂]
  | _ => simp [toList]

/-! ## The parts of a record -/

/-- A document that can be a record of so many fields: any object, and an array of that
length. -/
def IsRecord (count : Nat) : Json → Prop
  | .object _ => True
  | .array items => items.length = count
  | _ => False

/-- The members of a document under their names; the items of an array take the names in their
order. -/
def members (names : List String) : Json → List (String × Json)
  | .object members => (OrderedMap.ofList members).entries
  | .array items => names.zip items
  | _ => []

/-- The part of a document that has a name. -/
def part? (names : List String) (json : Json) (name : String) : Option Json :=
  ((json.members names).find? fun entry => entry.1 = name).map Prod.snd

theorem nodup_members {names : List String} (hnames : names.Nodup) (json : Json) :
    ((json.members names).map Prod.fst).Nodup := by
  cases json with
  | object members => exact (OrderedMap.ofList members).nodup_keys
  | array items =>
      rw [members, List.zip_eq_zip_take_min, List.map_fst_zip (by simp)]
      exact hnames.sublist (List.take_sublist _ _)
  | _ => exact .nil

theorem part?_eq_some_iff {names : List String} (hnames : names.Nodup) :
    json.part? names name = some part ↔ (name, part) ∈ json.members names :=
  find?_key_eq_some_iff (nodup_members hnames json)

namespace Fields

variable {fields : Fields α} {makers : Fields (α → β)}

/-- No two fields share a name, and a record is built only from parts that pass their checks. -/
structure Regular (fields : Fields α) : Prop where
  nodup : fields.names.Nodup
  check_of_build : ∀ {lookUp : String → Option Json} {value : α},
    fields.build lookUp = .ok value → ∀ {name : String} {part : Json},
    lookUp name = some part → fields.check name part = .ok ()

theorem regular_none (value : α) : (none value).Regular where
  nodup := .nil
  check_of_build _ _ _ _ := rfl

theorem build_none_eq_ok_iff {lookUp : String → Option Json} {value result : α} :
    (none value).build lookUp = .ok result ↔ value = result := by
  rw [none, Except.ok.injEq]

theorem build_required_eq_ok_iff {lookUp : String → Option Json} {result : β} :
    (makers.required name decode).build lookUp = .ok result ↔
      ∃ make part value, makers.build lookUp = .ok make ∧ lookUp name = some part ∧
        decode part = .ok value ∧ make value = result := by
  simp only [required, andThen, bind_eq_ok_iff]
  cases lookUp name with
  | none => simp
  | some part => simp [bind_eq_ok_iff, pure, Except.pure]

theorem Regular.required (hmakers : makers.Regular) (hname : name ∉ makers.names) :
    (makers.required name decode).Regular where
  nodup := by
    rw [Fields.required, andThen, ← List.concat_eq_append]
    exact hmakers.nodup.concat hname
  check_of_build := by
    intro lookUp result hbuild member part hpart
    obtain ⟨make, own, value, hmake, hown, hvalue, -⟩ := build_required_eq_ok_iff.mp hbuild
    simp only [Fields.required, andThen]
    split
    case isTrue hsame =>
      rw [hsame, hown] at hpart
      cases hpart
      exact map_eq_ok_iff.mpr ⟨value, hvalue, rfl⟩
    case isFalse => exact hmakers.check_of_build hmake hpart

theorem checkAll_eq_ok_iff {members : List (String × Json)} :
    fields.checkAll false members = .ok () ↔
      ∀ member ∈ members, fields.check member.1 member.2 = .ok () := by
  induction members with
  | nil => exact iff_of_true rfl nofun
  | cons member members ih =>
      rw [List.forall_mem_cons, ← ih, checkAll]
      cases hmember : fields.check member.1 member.2 with
      | error failure => simp
      | ok _ => simp

/-- A record that ignores other members decodes exactly where it is built from the parts of the
document: the checks before only decide which error is told. -/
theorem Regular.toRecord_eq_ok_iff (hfields : fields.Regular) {value : α} :
    fields.toRecord name json = .ok value ↔
      json.IsRecord fields.names.length ∧ fields.build (json.part? fields.names) = .ok value := by
  have hchecked (hbuild : fields.build (json.part? fields.names) = .ok value) :
      fields.checkAll false (json.members fields.names) = .ok () :=
    checkAll_eq_ok_iff.mpr fun member hmember =>
      hfields.check_of_build hbuild ((part?_eq_some_iff hfields.nodup).mpr hmember)
  cases json with
  | object members =>
      rw [toRecord, decode, bind_eq_ok_iff, IsRecord, true_and]
      constructor
      · rintro ⟨_, -, hbuild⟩
        exact hbuild
      · intro hbuild
        exact ⟨_, hchecked hbuild, hbuild⟩
  | array items =>
      rw [toRecord, decode, bind_eq_ok_iff, IsRecord]
      constructor
      · rintro ⟨_, -, hbuild⟩
        split at hbuild
        · cases hbuild
        · split at hbuild
          · cases hbuild
          · exact ⟨by omega, hbuild⟩
      · rintro ⟨hlength, hbuild⟩
        refine ⟨_, hchecked hbuild, ?_⟩
        rw [if_neg (by omega), if_neg (by omega)]
        exact hbuild
  | _ => simp [toRecord, decode, IsRecord]

end Fields

end Json

namespace FloorPlan

variable {plan : FloorPlan} {json : Json} {items : List Json}

/-! ## Documents of plans -/

/-- A document describes a plan: it says its height and width and lists its tiles. -/
structure DescribedBy (plan : FloorPlan) (json : Json) (items : List Json) : Prop where
  isRecord : json.IsRecord fields.names.length
  rows : json.part? fields.names "rows" = some (.ofNat plan.rows)
  columns : json.part? fields.names "cols" = some (.ofNat plan.columns)
  cells : json.part? fields.names "cells" = some (.array items)
  tiles : List.Forall₂ (fun item tile => Tile.ofJson item = .ok tile) items plan.tiles.toList

theorem DescribedBy.size_eq (hplan : plan.DescribedBy json items) :
    plan.tiles.size = items.length := by
  rw [hplan.tiles.length_eq, Array.length_toList]

theorem tilesOfJson_eq_ok_iff {tiles : Array Tile} :
    tilesOfJson json = .ok tiles ↔ ∃ items, json = .array items ∧
      List.Forall₂ (fun item tile => Tile.ofJson item = .ok tile) items tiles.toList := by
  rw [tilesOfJson, map_eq_ok_iff]
  constructor
  · rintro ⟨listed, hlisted, rfl⟩
    exact Json.toList_eq_ok_iff.mp hlisted
  · intro hitems
    exact ⟨tiles.toList, Json.toList_eq_ok_iff.mpr hitems, Array.toArray_toList⟩

theorem regular_fields : fields.Regular :=
  Json.Fields.regular_none FloorPlan.mk
    |>.required (by simp [Json.Fields.none])
    |>.required (by simp [Json.Fields.none, Json.Fields.required, Json.Fields.andThen])
    |>.required (by simp [Json.Fields.none, Json.Fields.required, Json.Fields.andThen])

theorem build_fields_eq_ok_iff {lookUp : String → Option Json} :
    fields.build lookUp = .ok plan ↔
      lookUp "rows" = some (.ofNat plan.rows) ∧ lookUp "cols" = some (.ofNat plan.columns) ∧
        ∃ items, lookUp "cells" = some (.array items) ∧
          List.Forall₂ (fun item tile => Tile.ofJson item = .ok tile) items
            plan.tiles.toList := by
  simp only [fields, Json.Fields.build_required_eq_ok_iff, Json.Fields.build_none_eq_ok_iff,
    Json.toSize, Json.toNat_eq_ok_iff, tilesOfJson_eq_ok_iff]
  constructor
  · rintro ⟨_, _, _, ⟨_, _, _, ⟨_, _, _, rfl, hrows, rfl, rfl⟩, hcolumns, rfl, rfl⟩, hcells,
      ⟨items, rfl, htiles⟩, rfl⟩
    exact ⟨hrows, hcolumns, items, hcells, htiles⟩
  · rintro ⟨hrows, hcolumns, items, hcells, htiles⟩
    exact ⟨_, _, _, ⟨_, _, _, ⟨_, _, _, rfl, hrows, rfl, rfl⟩, hcolumns, rfl, rfl⟩, hcells,
      ⟨items, rfl, htiles⟩, rfl⟩

theorem ofJson_eq_ok_iff : ofJson json = .ok plan ↔ ∃ items, plan.DescribedBy json items := by
  rw [ofJson, regular_fields.toRecord_eq_ok_iff, build_fields_eq_ok_iff]
  constructor
  · rintro ⟨hrecord, hrows, hcolumns, items, hcells, htiles⟩
    exact ⟨items, hrecord, hrows, hcolumns, hcells, htiles⟩
  · rintro ⟨items, hplan⟩
    exact ⟨hplan.isRecord, hplan.rows, hplan.columns, items, hplan.cells, hplan.tiles⟩

/-! ## The number of listed tiles -/

/-- What the number of its tiles decides about a plan. -/
structure JudgedBy (plan : FloorPlan) (count : Nat) : Prop where
  wellFormed_iff : plan.WellFormed ↔ count = plan.rows * plan.columns
  sturdy_iff : plan.Sturdy ↔ plan.rows * plan.columns ≤ count
  brittle_iff : plan.Brittle ↔ count < plan.rows * plan.columns

theorem judgedBy_size (hsize : plan.tiles.size < wordCount) :
    plan.JudgedBy plan.tiles.size where
  wellFormed_iff :=
    ⟨WellFormed.size_tiles, fun hequal => ⟨hequal, hequal ▸ hsize⟩⟩
  sturdy_iff := sturdy_iff_whole hsize
  brittle_iff := (brittle_iff_not_whole hsize).trans Nat.not_le

/-- A document is accepted as a plan exactly if it describes the plan, and then the number of
tiles that it lists decides everything: the plan is well-formed if they are exactly its
rectangle, no operation stops on a fault if they are enough for it, and every operation can be
made to stop if they are not. -/
theorem ofJson_judged (json : Json) (plan : FloorPlan) :
    (ofJson json = .ok plan ↔ ∃ items, plan.DescribedBy json items) ∧
      ∀ items, plan.DescribedBy json items → items.length < wordCount →
        plan.JudgedBy items.length := by
  refine ⟨ofJson_eq_ok_iff, fun items hplan hlength => ?_⟩
  rw [← hplan.size_eq] at hlength ⊢
  exact judgedBy_size hlength

/-- A plan of a wall and a door. -/
def porch : FloorPlan := ⟨1, 2, #[.wall, .door]⟩

/-- A document that says the height, the width and the tiles without their names. -/
theorem ofJson_judged_porch :
    porch.DescribedBy
        (.array [.ofNat 1, .ofNat 2, .array [.string "Wall", .string "Door"]])
        [.string "Wall", .string "Door"] ∧
      ofJson (.array [.ofNat 1, .ofNat 2, .array [.string "Wall", .string "Door"]]) =
        .ok porch ∧
      porch.WellFormed ∧ porch.Sturdy := by
  have hporch : porch.DescribedBy
      (.array [.ofNat 1, .ofNat 2, .array [.string "Wall", .string "Door"]])
      [.string "Wall", .string "Door"] :=
    ⟨rfl, rfl, rfl, rfl, .cons rfl (.cons rfl .nil)⟩
  obtain ⟨haccepted, hjudged⟩ := ofJson_judged
    (.array [.ofNat 1, .ofNat 2, .array [.string "Wall", .string "Door"]]) porch
  have hcount := hjudged _ hporch (by decide)
  exact ⟨hporch, haccepted.mpr ⟨_, hporch⟩, hcount.wellFormed_iff.mpr rfl,
    hcount.sturdy_iff.mpr (by decide)⟩

/-- A plan that claims four tiles and has one. -/
def torn : FloorPlan := ⟨2, 2, #[.wall]⟩

/-- A document with too few tiles is accepted, and the plan it describes stops every operation. -/
theorem torn_accepted :
    ofJson (.object [("rows", .ofNat 2), ("cols", .ofNat 2),
      ("cells", .array [.string "Wall"])]) = .ok torn ∧
      ¬ torn.WellFormed ∧ torn.read ⟨1, 1⟩ = .error (.outOfBounds 1 3) ∧ torn.Brittle := by
  have hjudged : torn.JudgedBy 1 := judgedBy_size (by decide)
  refine ⟨lossless.decode_encode torn, ?_, rfl, hjudged.brittle_iff.mpr (by decide)⟩
  exact fun htorn => absurd (hjudged.wellFormed_iff.mp htorn) (by decide)

end FloorPlan

end DishPlanner

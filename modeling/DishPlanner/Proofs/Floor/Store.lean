import DishPlanner.Proofs.Floor.Drawing

/-!
# Plans as stores

A plan is made blank or from a drawing, and then changed by writing single tiles
and by filling zones.  Whatever zones overlap or reach beyond the plan, it keeps
its size, no change fails, and every position shows the latest tile that was put
there: what a change does to `tileAt` is one equation, and a history follows by
induction.
-/

namespace DishPlanner

namespace FloorPlan

variable {plan : FloorPlan} {position : Position}

/-! ## One tile on many positions -/

/-- The plan with one tile put at every listed position. -/
def stamp (plan : FloorPlan) (positions : List Position) (tile : Tile) : FloorPlan :=
  positions.foldl (fun plan position => plan.put position tile) plan

theorem stamp_cons (plan : FloorPlan) (position : Position) (positions : List Position)
    (tile : Tile) :
    plan.stamp (position :: positions) tile = (plan.put position tile).stamp positions tile :=
  rfl

@[simp]
theorem rows_stamp (plan : FloorPlan) (positions : List Position) (tile : Tile) :
    (plan.stamp positions tile).rows = plan.rows := by
  induction positions generalizing plan with
  | nil => rfl
  | cons position positions ih => rw [stamp_cons, ih, rows_put]

@[simp]
theorem columns_stamp (plan : FloorPlan) (positions : List Position) (tile : Tile) :
    (plan.stamp positions tile).columns = plan.columns := by
  induction positions generalizing plan with
  | nil => rfl
  | cons position positions ih => rw [stamp_cons, ih, columns_put]

theorem WellFormed.stamp (hplan : plan.WellFormed) (positions : List Position) (tile : Tile) :
    (plan.stamp positions tile).WellFormed := by
  induction positions generalizing plan with
  | nil => exact hplan
  | cons position positions ih => exact ih (hplan.put position tile)

theorem WellFormed.tileAt_stamp (hplan : plan.WellFormed) (positions : List Position)
    (tile : Tile) (other : Position) :
    (plan.stamp positions tile).tileAt other =
      if other ∈ positions ∧ plan.Covers other then some tile else plan.tileAt other := by
  induction positions generalizing plan with
  | nil => simp [FloorPlan.stamp]
  | cons position positions ih =>
      simp only [stamp_cons, ih (hplan.put position tile), hplan.tileAt_put, covers_put]
      by_cases hsame : other = position
      · subst hsame
        by_cases hcovers : plan.Covers other
        · simp [hcovers]
        · simp [hcovers]
      · simp [hsame]

/-- A loop that writes one tile at every position of a list never fails. -/
theorem WellFormed.foldlM_write (hplan : plan.WellFormed) {ε : Type} {tile : Tile}
    {step : FloorPlan → Position → Except ε FloorPlan}
    (hstep : ∀ plan : FloorPlan, plan.WellFormed → ∀ position,
      step plan position = .ok (plan.put position tile)) (positions : List Position) :
    positions.foldlM step plan = .ok (plan.stamp positions tile) := by
  induction positions generalizing plan with
  | nil => rfl
  | cons position positions ih =>
      rw [List.foldlM_cons, hstep plan hplan]
      exact ih (hplan.put position tile)

/-- Filling a zone puts the tile on its part inside the plan. -/
theorem WellFormed.fill_eq (hplan : plan.WellFormed) (zone : Zone) (tile : Tile) :
    plan.fill zone tile =
      .ok (plan.stamp (zone.clip plan.rows plan.columns).positions tile) := by
  rw [fill, Zone.visit_eq_foldlM]
  apply hplan.foldlM_write
  intro plan hplan position
  rw [hplan.write_eq]
  rfl

/-! ## Changes -/

/-- A change of the tiles of a plan. -/
inductive Change where
  | overwrite (position : Position) (tile : Tile)
  | fill (zone : Zone) (tile : Tile)
deriving DecidableEq, Repr

namespace Change

/-- The tile that a change puts. -/
def tile : Change → Tile
  | .overwrite _ tile => tile
  | .fill _ tile => tile

/-- The position or the zone of a change, also outside of a plan. -/
def Reaches : Change → Position → Prop
  | .overwrite target _, position => position = target
  | .fill zone _, position => position ∈ zone

instance (change : Change) (position : Position) : Decidable (change.Reaches position) :=
  match change with
  | .overwrite target _ => inferInstanceAs (Decidable (position = target))
  | .fill zone _ => inferInstanceAs (Decidable (position ∈ zone))

/-- Where a change overwrites a single tile, which is answered. -/
def target? : Change → Option Position
  | .overwrite position _ => some position
  | .fill _ _ => none

/-- The plan after a change, with the answer of an overwriting. -/
def apply (plan : FloorPlan) : Change → Except Fault (FloorPlan × Option Bool)
  | .overwrite position tile =>
      (plan.overwrite position tile).map fun result => (result.1, some result.2)
  | .fill zone tile =>
      match plan.fill zone tile with
      | .error (_, fault) => .error fault
      | .ok next => .ok (next, none)

/-- A change of a plan that can be written. -/
def on (plan : FloorPlan) : Change → FloorPlan
  | .overwrite position tile => plan.put position tile
  | .fill zone tile => plan.stamp (zone.clip plan.rows plan.columns).positions tile

@[simp]
theorem rows_on (change : Change) (plan : FloorPlan) : (change.on plan).rows = plan.rows := by
  cases change with
  | overwrite position tile => exact rows_put plan position tile
  | fill zone tile => exact rows_stamp plan _ tile

@[simp]
theorem columns_on (change : Change) (plan : FloorPlan) :
    (change.on plan).columns = plan.columns := by
  cases change with
  | overwrite position tile => exact columns_put plan position tile
  | fill zone tile => exact columns_stamp plan _ tile

theorem covers_on (change : Change) : (change.on plan).Covers position ↔ plan.Covers position := by
  rw [Covers, Covers, rows_on, columns_on]

theorem wellFormed_on (change : Change) (hplan : plan.WellFormed) :
    (change.on plan).WellFormed := by
  cases change with
  | overwrite position tile => exact hplan.put position tile
  | fill zone tile => exact hplan.stamp _ tile

theorem apply_eq (change : Change) (hplan : plan.WellFormed) :
    change.apply plan =
      .ok (change.on plan, change.target?.map fun position => decide (plan.Covers position)) := by
  cases change with
  | overwrite position tile =>
      rw [apply, hplan.overwrite_eq]
      rfl
  | fill zone tile =>
      rw [apply, hplan.fill_eq]
      rfl

/-- What a change shows: its tile where it reaches, and the old tile elsewhere. -/
theorem tileAt_on (change : Change) (hplan : plan.WellFormed) (hcovers : plan.Covers position) :
    (change.on plan).tileAt position =
      if change.Reaches position then some change.tile else plan.tileAt position := by
  cases change with
  | overwrite target tile =>
      rw [on, hplan.tileAt_put]
      by_cases hsame : position = target
      · subst hsame
        simp [Reaches, Change.tile, hcovers]
      · simp [Reaches, hsame]
  | fill zone tile =>
      have hinside : position ∈ zone.clip plan.rows plan.columns ↔ position ∈ zone :=
        Zone.mem_clip.trans (and_iff_left hcovers)
      rw [on, hplan.tileAt_stamp]
      by_cases hzone : position ∈ zone
      · simp [Reaches, Change.tile, Zone.mem_positions, hinside, hzone, hcovers]
      · simp [Reaches, Zone.mem_positions, hinside, hzone]

end Change

/-! ## Histories of changes -/

/-- Carries out changes one after the other, and lists the answers of the
overwritings. -/
def carryOut (plan : FloorPlan) : List Change → Except Fault (FloorPlan × List Bool)
  | [] => .ok (plan, [])
  | change :: changes => do
      let (next, answer) ← change.apply plan
      let (last, answers) ← next.carryOut changes
      return (last, answer.toList ++ answers)

/-- The latest change that reaches a position. -/
def latest (changes : List Change) (position : Position) : Option Change :=
  changes.reverse.find? fun change => change.Reaches position

theorem latest_cons (change : Change) (changes : List Change) (position : Position) :
    latest (change :: changes) position =
      (latest changes position).or (if change.Reaches position then some change else none) := by
  rw [latest, List.reverse_cons, List.find?_append, latest, List.find?_cons, List.find?_nil]
  by_cases hreaches : change.Reaches position
  · simp [hreaches]
  · simp [hreaches]

/-- What a history keeps of a plan and what it shows. -/
structure Keeps (plan : FloorPlan) (changes : List Change) (last : FloorPlan) : Prop where
  wellFormed : last.WellFormed
  rows_eq : last.rows = plan.rows
  columns_eq : last.columns = plan.columns
  tileAt_eq : ∀ position, plan.Covers position →
    last.tileAt position = ((latest changes position).map Change.tile).or (plan.tileAt position)

theorem Keeps.nil (hplan : plan.WellFormed) : plan.Keeps [] plan where
  wellFormed := hplan
  rows_eq := rfl
  columns_eq := rfl
  tileAt_eq _ _ := rfl

/-- A change before a history is the earliest of all. -/
theorem Keeps.cons {change : Change} {changes : List Change} {last : FloorPlan}
    (hplan : plan.WellFormed) (hkeeps : (change.on plan).Keeps changes last) :
    plan.Keeps (change :: changes) last where
  wellFormed := hkeeps.wellFormed
  rows_eq := hkeeps.rows_eq.trans (change.rows_on plan)
  columns_eq := hkeeps.columns_eq.trans (change.columns_on plan)
  tileAt_eq position hcovers := by
    rw [hkeeps.tileAt_eq position (change.covers_on.mpr hcovers), change.tileAt_on hplan hcovers,
      latest_cons]
    by_cases hreaches : change.Reaches position
    · simp [hreaches]
    · simp [hreaches]

theorem WellFormed.exists_carryOut (hplan : plan.WellFormed) (changes : List Change) :
    ∃ last, plan.carryOut changes = .ok (last,
        (changes.filterMap Change.target?).map fun position => decide (plan.Covers position)) ∧
      plan.Keeps changes last := by
  induction changes generalizing plan with
  | nil => exact ⟨plan, rfl, .nil hplan⟩
  | cons change changes ih =>
      obtain ⟨last, hlast, hkeeps⟩ := ih (change.wellFormed_on hplan)
      refine ⟨last, ?_, hkeeps.cons hplan⟩
      rw [carryOut, change.apply_eq hplan]
      simp only [bind, Except.bind, hlast, pure, Except.pure, change.covers_on]
      cases change with
      | overwrite position tile => rfl
      | fill zone tile => rfl

/-! ## Plans as they are made -/

/-- The tile of the character that lines show at a position. -/
def drawnTile (lines : List String) (position : Position) : Option Tile :=
  lines[position.row]?.bind fun line => line.toList[position.column]?.map Tile.ofCode

/-- A plan as it is made: blank, or from a drawing.  The function gives the tiles
that it is made with. -/
inductive MadeWith : FloorPlan → (Position → Option Tile) → Prop
  | blank {rows columns : Nat} {tile : Tile} {plan : FloorPlan}
      (hblank : FloorPlan.blank rows columns tile = .ok plan) :
      MadeWith plan fun _ => some tile
  | drawing {lines : List String} {plan : FloorPlan} (hlines : ofLines lines = .ok plan) :
      MadeWith plan (drawnTile lines)

theorem blank_of_le {rows columns : Nat}
    (hlarge : memoryLimit ≤ Tile.bytes * (rows * columns)) (tile : Tile) :
    FloorPlan.blank rows columns tile = .error (areaFault rows columns) := by
  rw [FloorPlan.blank, reserveTiles_of_le hlarge]
  rfl

theorem blank_eq_ok_iff {rows columns : Nat} {tile : Tile} :
    FloorPlan.blank rows columns tile = .ok plan ↔
      Tile.bytes * (rows * columns) < memoryLimit ∧
        plan = ⟨rows, columns, Array.replicate (rows * columns) tile⟩ := by
  by_cases hfits : Tile.bytes * (rows * columns) < memoryLimit
  · rw [FloorPlan.blank, reserveTiles_of_lt hfits]
    simp [hfits, bind, Except.bind, pure, Except.pure, eq_comm]
  · rw [blank_of_le (Nat.le_of_not_lt hfits)]
    simp [hfits]

theorem MadeWith.wellFormed {made : Position → Option Tile} (hmade : plan.MadeWith made) :
    plan.WellFormed := by
  cases hmade with
  | blank hblank =>
      obtain ⟨hfits, rfl⟩ := blank_eq_ok_iff.mp hblank
      refine Storable.wellFormed ?_ Array.size_replicate
      rwa [Storable, Array.size_replicate]
  | drawing hlines =>
      obtain ⟨hdrawn, hstored⟩ := ofLines_eq_ok_iff.mp hlines
      exact hstored.wellFormed hdrawn.hasRows.size_tiles

theorem MadeWith.tileAt_eq {made : Position → Option Tile} (hmade : plan.MadeWith made)
    (hcovers : plan.Covers position) : plan.tileAt position = made position := by
  have hplan := hmade.wellFormed
  cases hmade with
  | blank hblank =>
      have hindex : plan.index position < plan.tiles.size := hplan.index_lt hcovers
      obtain ⟨-, rfl⟩ := blank_eq_ok_iff.mp hblank
      rw [Array.size_replicate] at hindex
      rw [tileAt, if_pos hcovers, Array.getElem?_replicate, if_pos hindex]
  | drawing hlines =>
      rw [(ofLines_eq_ok_iff.mp hlines).1.hasRows.tileAt_eq, drawnTile, List.getElem?_map,
        Option.bind_map]
      congr 1
      funext line
      exact List.getElem?_map

/-- What changes make of a plan: every overwriting tells whether its position is
inside, the size stays, and a position inside shows the latest tile that a change
put there, or else the tile that the plan was made with. -/
structure Stores (plan : FloorPlan) (made : Position → Option Tile) (changes : List Change)
    (last : FloorPlan) (answers : List Bool) : Prop where
  answers_eq : answers =
    (changes.filterMap Change.target?).map fun position => decide (plan.Covers position)
  rows_eq : last.rows = plan.rows
  columns_eq : last.columns = plan.columns
  size_tiles : last.tiles.size = last.rows * last.columns
  read_outside : ∀ position, ¬ plan.Covers position → last.read position = .ok none
  read_inside : ∀ position, plan.Covers position →
    ∃ first, made position = some first ∧
      last.read position = .ok (some (((latest changes position).map Change.tile).getD first))

/-- No history of changes fails, and the plan stores what was put last. -/
theorem carryOut_stores {made : Position → Option Tile} (hmade : plan.MadeWith made)
    (changes : List Change) :
    ∃ last answers, plan.carryOut changes = .ok (last, answers) ∧
      plan.Stores made changes last answers := by
  have hplan := hmade.wellFormed
  obtain ⟨last, hlast, hkeeps⟩ := hplan.exists_carryOut changes
  refine ⟨last, _, hlast, rfl, hkeeps.rows_eq, hkeeps.columns_eq, hkeeps.wellFormed.size_tiles,
    ?_, ?_⟩
  · intro position houtside
    have hlastOutside : ¬ last.Covers position := by
      rwa [Covers, hkeeps.rows_eq, hkeeps.columns_eq]
    rw [hkeeps.wellFormed.read_eq, tileAt, if_neg hlastOutside]
  · intro position hcovers
    obtain ⟨first, hfirst⟩ := hplan.exists_tileAt hcovers
    refine ⟨first, (hmade.tileAt_eq hcovers).symm.trans hfirst, ?_⟩
    rw [hkeeps.wellFormed.read_eq, hkeeps.tileAt_eq position hcovers, hfirst]
    cases latest changes position with
    | none => rfl
    | some change => rfl

/-- Changes of the alcove: two zones, one of which reaches beyond the plan and one
of which ends before it starts, and a tile inside and one outside. -/
def alcoveChanges : List Change :=
  [ .fill ⟨⟨1, wordCount - 1⟩, ⟨1, 9⟩⟩ .wall,
    .overwrite ⟨1, 1⟩ .fridge,
    .overwrite ⟨2, 0⟩ .door,
    .fill ⟨⟨1, 0⟩, ⟨0, 3⟩⟩ .counter ]

theorem carryOut_stores_alcove :
    alcove.MadeWith (drawnTile alcoveLines) ∧
      ∃ last answers, alcove.carryOut alcoveChanges = .ok (last, answers) ∧
        alcove.Stores (drawnTile alcoveLines) alcoveChanges last answers ∧
        answers = [true, false] := by
  have hmade : alcove.MadeWith (drawnTile alcoveLines) := .drawing rfl
  obtain ⟨last, answers, hlast, hstores⟩ := carryOut_stores hmade alcoveChanges
  refine ⟨hmade, last, answers, hlast, hstores, ?_⟩
  rw [hstores.answers_eq]
  decide

end FloorPlan

end DishPlanner

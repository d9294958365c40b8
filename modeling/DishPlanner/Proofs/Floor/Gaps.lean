import DishPlanner.Proofs.Floor.ReadingOrder
import DishPlanner.Proofs.Floor.Store

/-!
# Plans with a short array

The array of a plan that arrives from outside may end before the rectangle does.  The
plan then lacks some of the positions that it covers, and an access to one of them
stops with the fault of the first computation that fails there.

Places grow along reading order, so a scan that meets a lacking position has met every
position of its zone that can be written.  Filling a zone therefore writes the same
tiles whether or not it is stopped.
-/

namespace DishPlanner

/-! ## Loops that stop -/

section Loops

variable {α ε σ : Type}

/-- A loop whose steps depend on the item alone in whether they fail.  The invariant is
what the steps keep of the state. -/
structure StopsOn (step : σ → α → Except ε σ) (bad : α → Prop) (invariant : σ → Prop)
    (next : σ → α → σ) (failure : σ → α → ε) : Prop where
  invariant_next : ∀ {state}, invariant state → ∀ item, invariant (next state item)
  step_of_not_bad : ∀ {state}, invariant state → ∀ {item}, ¬ bad item →
    step state item = .ok (next state item)
  step_of_bad : ∀ {state}, invariant state → ∀ {item}, bad item →
    step state item = .error (failure state item)

namespace StopsOn

variable {step : σ → α → Except ε σ} {bad : α → Prop} {invariant : σ → Prop}
  {next : σ → α → σ} {failure : σ → α → ε} {state : σ} {items : List α}

theorem invariant_foldl (hstep : StopsOn step bad invariant next failure)
    (hstate : invariant state) : invariant (items.foldl next state) := by
  induction items generalizing state with
  | nil => exact hstate
  | cons item items ih => exact ih (hstep.invariant_next hstate item)

/-- Without a bad item the loop comes to its end. -/
theorem foldlM_of_forall (hstep : StopsOn step bad invariant next failure)
    (hstate : invariant state) (hitems : ∀ item ∈ items, ¬ bad item) :
    items.foldlM step state = .ok (items.foldl next state) := by
  induction items generalizing state with
  | nil => rfl
  | cons item items ih =>
      obtain ⟨hitem, hrest⟩ := List.forall_mem_cons.mp hitems
      rw [List.foldlM_cons, hstep.step_of_not_bad hstate hitem]
      exact ih (hstep.invariant_next hstate item) hrest

/-- A loop with a bad item stops at the first one. -/
theorem exists_foldlM_eq_error (hstep : StopsOn step bad invariant next failure)
    (hstate : invariant state) (hbad : ∃ item ∈ items, bad item) :
    ∃ before item after, items = before ++ item :: after ∧
      (∀ other ∈ before, ¬ bad other) ∧ bad item ∧
      before.foldlM step state = .ok (before.foldl next state) ∧
      items.foldlM step state = .error (failure (before.foldl next state) item) := by
  classical
  obtain ⟨item, hfirst⟩ : ∃ item, items.find? (bad ·) = some item := by
    rw [← Option.isSome_iff_exists, List.find?_isSome]
    simpa using hbad
  obtain ⟨hitem, before, after, rfl, hbefore⟩ := List.find?_eq_some_iff_append.mp hfirst
  have hitem : bad item := by simpa using hitem
  have hbefore : ∀ other ∈ before, ¬ bad other := by simpa using hbefore
  have hreached := hstep.foldlM_of_forall hstate hbefore
  refine ⟨before, item, after, rfl, hbefore, hitem, hreached, ?_⟩
  rw [List.foldlM_append, hreached]
  change (item :: after).foldlM step _ = _
  rw [List.foldlM_cons, hstep.step_of_bad (hstep.invariant_foldl hstate) hitem]
  rfl

/-- A loop whose failures come with the state before the failing step. -/
theorem mapError (hstep : StopsOn step bad invariant next failure) :
    StopsOn (fun state item => (step state item).mapError fun fault => (state, fault)) bad
      invariant next fun state item => (state, failure state item) where
  invariant_next := hstep.invariant_next
  step_of_not_bad hstate _ hitem := by
    rw [hstep.step_of_not_bad hstate hitem]
    rfl
  step_of_bad hstate _ hitem := by
    rw [hstep.step_of_bad hstate hitem]
    rfl

end StopsOn

end Loops

namespace FloorPlan

variable {plan left : FloorPlan} {position other : Position} {zone : Zone} {tile : Tile}

/-! ## Access to a plan with a short array -/

/-- The position lies inside the rectangle, and the array ends before its place. -/
def Lacks (plan : FloorPlan) (position : Position) : Prop :=
  plan.Covers position ∧ plan.tiles.size ≤ plan.index position

instance (plan : FloorPlan) (position : Position) : Decidable (plan.Lacks position) :=
  inferInstanceAs (Decidable (_ ∧ _))

/-- What stops an access to a lacking position: the place is computed in words, the
product first, and then looked up. -/
def lackFault (plan : FloorPlan) (position : Position) : Fault :=
  if wordCount ≤ position.row * plan.columns then .productTooLarge
  else if wordCount ≤ plan.index position then .sumTooLarge
  else .outOfBounds plan.tiles.size (plan.index position)

theorem locate_of_lacks (hlacks : plan.Lacks position) :
    plan.locate position = .error (plan.lackFault position) := by
  obtain ⟨hcovers, hbehind⟩ := hlacks
  rw [locate, if_pos hcovers, lackFault]
  by_cases hproduct : wordCount ≤ position.row * plan.columns
  · rw [checkedMul_of_le hproduct, if_pos hproduct]
    rfl
  rw [checkedMul_of_lt (Nat.lt_of_not_le hproduct), if_neg hproduct]
  simp only [bind, Except.bind]
  by_cases hsum : wordCount ≤ plan.index position
  · rw [checkedAdd_of_le hsum, if_pos hsum]
  · rw [checkedAdd_of_lt (Nat.lt_of_not_le hsum), if_neg hsum]
    exact dif_neg (Nat.not_lt.mpr hbehind)

/-- A place that the array reaches is found, because the array has a length in words. -/
theorem locate_of_index_lt (hsize : plan.tiles.size < wordCount) (hcovers : plan.Covers position)
    (hindex : plan.index position < plan.tiles.size) :
    plan.locate position = .ok (some ⟨plan.index position, hindex⟩) := by
  have hsum : position.row * plan.columns + position.column < wordCount :=
    Nat.lt_trans hindex hsize
  rw [locate, if_pos hcovers, checkedMul_of_lt (Nat.lt_of_le_of_lt (Nat.le_add_right _ _) hsum)]
  simp only [bind, Except.bind]
  rw [checkedAdd_of_lt hsum]
  exact dif_pos hindex

theorem index_lt_of_not_lacks (hcovers : plan.Covers position) (hfound : ¬ plan.Lacks position) :
    plan.index position < plan.tiles.size :=
  Nat.lt_of_not_le fun hbehind => hfound ⟨hcovers, hbehind⟩

theorem read_of_lacks (hlacks : plan.Lacks position) :
    plan.read position = .error (plan.lackFault position) := by
  rw [read, locate_of_lacks hlacks]
  rfl

theorem read_of_not_lacks (hsize : plan.tiles.size < wordCount)
    (hfound : ¬ plan.Lacks position) : plan.read position = .ok (plan.tileAt position) := by
  by_cases hcovers : plan.Covers position
  · have hindex := index_lt_of_not_lacks hcovers hfound
    rw [read, locate_of_index_lt hsize hcovers hindex, tileAt, if_pos hcovers,
      Array.getElem?_eq_getElem hindex]
    rfl
  · rw [read, locate_of_not_covers hcovers, tileAt, if_neg hcovers]
    rfl

theorem write_of_lacks (hlacks : plan.Lacks position) (tile : Tile) :
    plan.write position tile = .error (plan.lackFault position) := by
  rw [write, overwrite, locate_of_lacks hlacks]
  rfl

theorem write_of_not_lacks (hsize : plan.tiles.size < wordCount)
    (hfound : ¬ plan.Lacks position) (tile : Tile) :
    plan.write position tile = .ok (plan.put position tile) := by
  by_cases hcovers : plan.Covers position
  · have hindex := index_lt_of_not_lacks hcovers hfound
    rw [write, overwrite, locate_of_index_lt hsize hcovers hindex, put, if_pos hcovers,
      Array.setIfInBounds_def, dif_pos hindex]
    rfl
  · rw [write, overwrite, locate_of_not_covers hcovers, put_of_not_covers hcovers]
    rfl

/-- Places grow along reading order. -/
theorem index_lt_of_lt (hcovers : plan.Covers position) (hlt : position < other) :
    plan.index position < plan.index other := by
  rcases hlt with hrow | ⟨hrow, hcolumn⟩
  · exact index_lt_of_row_lt hcovers hrow
  · rw [index, index, hrow]
    exact Nat.add_lt_add_left hcolumn _

/-- Behind a lacking position nothing can be found. -/
theorem Lacks.of_lt (hlacks : plan.Lacks position) (hlt : position < other)
    (hcovers : plan.Covers other) : plan.Lacks other :=
  ⟨hcovers, Nat.le_of_lt (Nat.lt_of_le_of_lt hlacks.2 (index_lt_of_lt hlacks.1 hlt))⟩

/-! ## What stamping leaves of the array -/

@[simp]
theorem size_put (plan : FloorPlan) (position : Position) (tile : Tile) :
    (plan.put position tile).tiles.size = plan.tiles.size := by
  by_cases hcovers : plan.Covers position
  · rw [tiles_put hcovers, Array.size_setIfInBounds]
  · rw [put_of_not_covers hcovers]

@[simp]
theorem size_stamp (plan : FloorPlan) (positions : List Position) (tile : Tile) :
    (plan.stamp positions tile).tiles.size = plan.tiles.size := by
  induction positions generalizing plan with
  | nil => rfl
  | cons position positions ih => rw [stamp_cons, ih, size_put]

/-- Stamping changes the places of the stamped positions, as far as the array reaches. -/
theorem getElem?_stamp (plan : FloorPlan) (positions : List Position) (tile : Tile)
    (place : Nat) :
    (plan.stamp positions tile).tiles[place]? =
      if place < plan.tiles.size ∧
          ∃ position ∈ positions, plan.Covers position ∧ plan.index position = place then
        some tile
      else plan.tiles[place]? := by
  induction positions generalizing plan with
  | nil => simp [stamp]
  | cons position positions ih =>
      simp only [stamp_cons, ih, size_put, covers_put, index_put]
      by_cases hcovers : plan.Covers position
      · rw [tiles_put hcovers, Array.getElem?_setIfInBounds]
        by_cases hplace : plan.index position = place
        · subst hplace
          by_cases hreached : plan.index position < plan.tiles.size
          · simp [hreached, hcovers]
          · simp [hreached]
        · simp [hplace]
      · simp [put_of_not_covers hcovers, hcovers]

/-! ## Filling a zone -/

/-- The plans have one size, and their arrays are equally long. -/
structure SameShape (plan other : FloorPlan) : Prop where
  rows_eq : other.rows = plan.rows
  columns_eq : other.columns = plan.columns
  size_eq : other.tiles.size = plan.tiles.size

namespace SameShape

theorem refl (plan : FloorPlan) : plan.SameShape plan := ⟨rfl, rfl, rfl⟩

theorem put (hshape : plan.SameShape left) (position : Position) (tile : Tile) :
    plan.SameShape (left.put position tile) where
  rows_eq := (rows_put left position tile).trans hshape.rows_eq
  columns_eq := (columns_put left position tile).trans hshape.columns_eq
  size_eq := (size_put left position tile).trans hshape.size_eq

theorem index_eq (hshape : plan.SameShape left) (position : Position) :
    left.index position = plan.index position := by
  rw [index, index, hshape.columns_eq]

theorem lacks_iff (hshape : plan.SameShape left) : left.Lacks position ↔ plan.Lacks position := by
  rw [Lacks, Lacks, Covers, Covers, hshape.index_eq, hshape.rows_eq, hshape.columns_eq,
    hshape.size_eq]

theorem lackFault_eq (hshape : plan.SameShape left) (position : Position) :
    left.lackFault position = plan.lackFault position := by
  rw [lackFault, lackFault, hshape.index_eq, hshape.columns_eq, hshape.size_eq]

end SameShape

/-- The writes of a filling depend on the shape of the plan alone in whether they fail. -/
theorem stopsOn_write (hsize : plan.tiles.size < wordCount) (tile : Tile) :
    StopsOn (fun left position => left.write position tile) plan.Lacks plan.SameShape
      (fun left position => left.put position tile) fun _ position => plan.lackFault position where
  invariant_next hshape position := hshape.put position tile
  step_of_not_bad hshape _ hfound :=
    write_of_not_lacks (hshape.size_eq ▸ hsize) (hfound ∘ hshape.lacks_iff.mp) tile
  step_of_bad hshape position hlacks := by
    rw [write_of_lacks (hshape.lacks_iff.mpr hlacks), hshape.lackFault_eq]

/-- The last plan is the first one with the tile at exactly those places of its array that
belong to covered positions of the zone. -/
structure FilledTo (plan : FloorPlan) (zone : Zone) (tile : Tile) (last : FloorPlan) : Prop where
  shape : plan.SameShape last
  tile_of_reached : ∀ position ∈ zone, plan.Covers position →
    plan.index position < plan.tiles.size → last.tiles[plan.index position]? = some tile
  tile_of_not_reached : ∀ place,
    (∀ position ∈ zone, plan.Covers position → plan.index position ≠ place) →
      last.tiles[place]? = plan.tiles[place]?

/-- Stamping fills a zone if it misses no position of the zone that the array reaches. -/
theorem filledTo_stamp {positions : List Position} (hzone : ∀ position ∈ positions, position ∈ zone)
    (hall : ∀ position ∈ zone, plan.Covers position →
      plan.index position < plan.tiles.size → position ∈ positions) :
    plan.FilledTo zone tile (plan.stamp positions tile) where
  shape := ⟨rows_stamp plan positions tile, columns_stamp plan positions tile,
    size_stamp plan positions tile⟩
  tile_of_reached position hposition hcovers hindex := by
    rw [getElem?_stamp, if_pos]
    exact ⟨hindex, position, hall position hposition hcovers hindex, hcovers, rfl⟩
  tile_of_not_reached place hplace := by
    rw [getElem?_stamp, if_neg]
    rintro ⟨-, position, hposition, hcovers, hindex⟩
    exact hplace position (hzone position hposition) hcovers hindex

/-- Filling a zone is stopped at a position: it is the first one of the zone that the plan
lacks, the positions before it have been written, and the next write fails. -/
structure StopsAt (plan : FloorPlan) (zone : Zone) (tile : Tile) (left : FloorPlan)
    (fault : Fault) (position : Position) : Prop where
  mem : position ∈ zone
  lacks : plan.Lacks position
  first : ∀ other ∈ zone, plan.Lacks other → position ≤ other
  written : ∃ before after,
    (zone.clip plan.rows plan.columns).positions = before ++ position :: after ∧
      before.foldlM (fun plan position => plan.write position tile) plan = .ok left
  refused : left.write position tile = .error fault
  fault_eq : fault = plan.lackFault position

theorem mem_clip_positions {zone : Zone} :
    position ∈ (zone.clip plan.rows plan.columns).positions ↔
      position ∈ zone ∧ plan.Covers position := by
  rw [Zone.mem_positions, Zone.mem_clip, Covers]

/-- A scan that is cut at a lacking position has left nothing to find behind the cut. -/
theorem mem_before_or_lacks {before after : List Position}
    (hscan : (zone.clip plan.rows plan.columns).positions = before ++ position :: after)
    (hlacks : plan.Lacks position) (hother : other ∈ zone) (hcovers : plan.Covers other) :
    other ∈ before ∨ position ≤ other ∧ plan.Lacks other := by
  have hclip : other ∈ zone.clip plan.rows plan.columns := Zone.mem_clip.mpr ⟨hother, hcovers⟩
  rcases Zone.mem_before_or_lt hscan hclip with hbefore | rfl | hlt
  · exact .inl hbefore
  · exact .inr ⟨Position.le_refl _, hlacks⟩
  · exact .inr ⟨Position.le_of_lt hlt, hlacks.of_lt hlt hcovers⟩

theorem fill_of_forall_not_lacks (hsize : plan.tiles.size < wordCount)
    (hfound : ∀ position ∈ zone, ¬ plan.Lacks position) (tile : Tile) :
    ∃ last, plan.fill zone tile = .ok last ∧ plan.FilledTo zone tile last := by
  refine ⟨plan.stamp (zone.clip plan.rows plan.columns).positions tile, ?_, filledTo_stamp ?_ ?_⟩
  · rw [fill, Zone.visit_eq_foldlM]
    apply (stopsOn_write hsize tile).mapError.foldlM_of_forall (.refl plan)
    exact fun position hposition => hfound position (mem_clip_positions.mp hposition).1
  · exact fun position hposition => (mem_clip_positions.mp hposition).1
  · exact fun position hposition hcovers _ => mem_clip_positions.mpr ⟨hposition, hcovers⟩

theorem fill_of_lacks (hsize : plan.tiles.size < wordCount)
    (hlacks : ∃ position ∈ zone, plan.Lacks position) (tile : Tile) :
    ∃ left fault position, plan.fill zone tile = .error (left, fault) ∧
      plan.FilledTo zone tile left ∧ plan.StopsAt zone tile left fault position := by
  have hwrite := stopsOn_write hsize tile
  obtain ⟨first, hfirst, hfirstLacks⟩ := hlacks
  obtain ⟨before, position, after, hscan, hbefore, hposition, -, hstops⟩ :=
    hwrite.mapError.exists_foldlM_eq_error (.refl plan)
      ⟨first, mem_clip_positions.mpr ⟨hfirst, hfirstLacks.1⟩, hfirstLacks⟩
  have hshape : plan.SameShape (plan.stamp before tile) := hwrite.invariant_foldl (.refl plan)
  have hzone : ∀ other ∈ before ++ position :: after, other ∈ zone := fun other hother =>
    (mem_clip_positions.mp (hscan ▸ hother)).1
  refine ⟨plan.stamp before tile, plan.lackFault position, position, ?_, filledTo_stamp ?_ ?_, ?_⟩
  · rw [fill, Zone.visit_eq_foldlM]
    exact hstops
  · exact fun other hother => hzone other (List.mem_append_left _ hother)
  · intro other hother hcovers hindex
    rcases mem_before_or_lacks hscan hposition hother hcovers with hmem | ⟨-, hlacks⟩
    · exact hmem
    · exact absurd hindex (Nat.not_lt.mpr hlacks.2)
  · exact {
      mem := hzone position (List.mem_append_right _ List.mem_cons_self)
      lacks := hposition
      first := by
        intro other hother hlacks
        rcases mem_before_or_lacks hscan hposition hother hlacks.1 with hmem | ⟨hle, -⟩
        · exact absurd hlacks (hbefore other hmem)
        · exact hle
      written := ⟨before, after, hscan, hwrite.foldlM_of_forall (.refl plan) hbefore⟩
      refused := hwrite.step_of_bad hshape hposition
      fault_eq := rfl }

/-- A filling is stopped exactly if the plan lacks a position of the zone, at the first such
position and with its fault.  Whether it is stopped or not, it leaves the tile at every
place of the zone that the array reaches, and nowhere else. -/
theorem fill_stops_at_lack (hsize : plan.tiles.size < wordCount) (zone : Zone) (tile : Tile) :
    ((∃ stopped, plan.fill zone tile = .error stopped) ↔
        ∃ position ∈ zone, plan.Lacks position) ∧
      (∀ last, plan.fill zone tile = .ok last → plan.FilledTo zone tile last) ∧
      ∀ left fault, plan.fill zone tile = .error (left, fault) →
        plan.FilledTo zone tile left ∧ ∃ position, plan.StopsAt zone tile left fault position := by
  by_cases hlacks : ∃ position ∈ zone, plan.Lacks position
  · obtain ⟨left, fault, position, hfill, hfilled, hstops⟩ := fill_of_lacks hsize hlacks tile
    rw [hfill]
    refine ⟨iff_of_true ⟨_, rfl⟩ hlacks, ?_, ?_⟩
    · intro other hother
      cases hother
    · intro other failure hother
      cases hother
      exact ⟨hfilled, position, hstops⟩
  · obtain ⟨last, hfill, hfilled⟩ := fill_of_forall_not_lacks hsize
      (fun position hposition hlack => hlacks ⟨position, hposition, hlack⟩) tile
    rw [hfill]
    refine ⟨iff_of_false (fun ⟨_, hstopped⟩ => by cases hstopped) hlacks, ?_, ?_⟩
    · intro other hother
      cases hother
      exact hfilled
    · intro other failure hother
      cases hother

/-- Three very wide rows, of which only two tiles are there. -/
def ruin : FloorPlan := ⟨3, wordCount - 1, #[.wall, .wall]⟩

/-- The second column of the ruin, down to its last row. -/
def ruinColumn : Zone := ⟨⟨0, 3⟩, ⟨1, 2⟩⟩

theorem fill_stops_at_lack_ruin :
    ruin.tiles.size < wordCount ∧
      ∃ left, ruin.fill ruinColumn .kitchenFloor = .error (left, .sumTooLarge) ∧
        left.tiles = #[.wall, .kitchenFloor] ∧
        ruin.FilledTo ruinColumn .kitchenFloor left ∧
        ∃ position, ruin.StopsAt ruinColumn .kitchenFloor left .sumTooLarge position := by
  have hsize : ruin.tiles.size < wordCount := by decide
  have hfill : ruin.fill ruinColumn .kitchenFloor =
      .error (⟨3, wordCount - 1, #[.wall, .kitchenFloor]⟩, .sumTooLarge) := by decide +kernel
  obtain ⟨-, -, hstopped⟩ := fill_stops_at_lack hsize ruinColumn .kitchenFloor
  exact ⟨hsize, _, hfill, rfl, hstopped _ _ hfill⟩

end FloorPlan

end DishPlanner

import DishPlanner.Proofs.Dinner.Draws
import DishPlanner.Proofs.Floor.Survey
import DishPlanner.Proofs.Roll.Choices

/-!
# Plans with enough tiles

A plan is whole if its array is at least as long as its rectangle is large.  It then lacks no
position, and no operation on it stops on a fault, whatever zones and crowds it is given.
An array that is shorter misses the last position at least, and then every operation
can be made to stop: wholeness is exactly what the planner asks of a plan.
-/

namespace DishPlanner

namespace Surveys

variable {outcome : Except Fault (List Position)} {unreadable sought : Position → Prop}
  {fault : Position → Fault}

theorem exists_ok (hscan : Surveys outcome unreadable fault sought)
    (hnone : ∀ position, ¬ unreadable position) : ∃ found, outcome = .ok found := by
  cases houtcome : outcome with
  | ok found => exact ⟨found, rfl⟩
  | error failure =>
      obtain ⟨position, hposition⟩ := hscan.error_iff.mp ⟨failure, houtcome⟩
      exact absurd hposition (hnone position)

end Surveys

namespace FloorPlan

variable {plan other : FloorPlan} {position : Position}

/-! ## Whole plans -/

/-- The array is at least as long as the rectangle is large. -/
def Whole (plan : FloorPlan) : Prop := plan.rows * plan.columns ≤ plan.tiles.size

instance (plan : FloorPlan) : Decidable plan.Whole :=
  inferInstanceAs (Decidable (_ ≤ _))

theorem WellFormed.whole (hplan : plan.WellFormed) : plan.Whole :=
  Nat.le_of_eq hplan.size_tiles.symm

theorem index_lt_area (hcovers : plan.Covers position) :
    plan.index position < plan.rows * plan.columns := by
  have hrows : (position.row + 1) * plan.columns ≤ plan.rows * plan.columns :=
    Nat.mul_le_mul_right _ hcovers.1
  have hcolumn := hcovers.2
  rw [Nat.succ_mul] at hrows
  simp only [index]
  omega

theorem Whole.not_lacks (hwhole : plan.Whole) (position : Position) : ¬ plan.Lacks position := by
  rintro ⟨hcovers, hbehind⟩
  exact Nat.not_lt.mpr (Nat.le_trans hwhole hbehind) (index_lt_area hcovers)

/-- A plan that is not whole lacks the last position of its rectangle. -/
theorem exists_lacks (hshort : ¬ plan.Whole) : ∃ position, plan.Lacks position := by
  have hlarge : plan.tiles.size < plan.rows * plan.columns := Nat.lt_of_not_le hshort
  have hrows : plan.rows ≠ 0 := fun hzero => by simp [hzero] at hlarge
  have hcolumns : plan.columns ≠ 0 := fun hzero => by simp [hzero] at hlarge
  obtain ⟨lastRow, hlastRow⟩ := Nat.exists_eq_succ_of_ne_zero hrows
  obtain ⟨lastColumn, hlastColumn⟩ := Nat.exists_eq_succ_of_ne_zero hcolumns
  refine ⟨⟨lastRow, lastColumn⟩, ⟨?_, ?_⟩, ?_⟩
  · exact hlastRow ▸ Nat.lt_succ_self lastRow
  · exact hlastColumn ▸ Nat.lt_succ_self lastColumn
  · rw [hlastRow, Nat.succ_mul] at hlarge
    rw [index]
    dsimp only
    omega

/-- The zone of all positions inside a plan. -/
def zone (plan : FloorPlan) : Zone := ⟨⟨0, plan.rows⟩, ⟨0, plan.columns⟩⟩

theorem mem_zone : position ∈ plan.zone ↔ plan.Covers position := by
  simp only [zone, Zone.mem_def, Span.mem_def, Nat.zero_le, true_and, Covers]

/-! ## Operations on whole plans -/

theorem Whole.exists_freeFloor (hwhole : plan.Whole) (hsize : plan.tiles.size < wordCount)
    (kitchen : Zone) (occupied : Position → Bool) :
    ∃ cells, freeFloor plan kitchen occupied = .ok cells :=
  (surveys_select hsize kitchen _ _).exists_ok fun position hunreadable =>
    hwhole.not_lacks position hunreadable.2.2

theorem Whole.exists_differences (hwhole : plan.Whole) (hsize : plan.tiles.size < wordCount)
    (hother : other.Whole) (hotherSize : other.tiles.size < wordCount) :
    ∃ found, plan.differences other = .ok found :=
  (surveys_differences hsize hotherSize).exists_ok fun position hunreadable =>
    hunreadable.2.elim (hwhole.not_lacks position) (hother.not_lacks position)

theorem Whole.serve_eq (hwhole : plan.Whole) (hsize : plan.tiles.size < wordCount)
    (servings : List Serving) : plan.serve servings = .ok (plan.lay servings) := by
  induction servings generalizing plan with
  | nil => rfl
  | cons serving servings ih =>
      rw [FloorPlan.serve, List.foldlM_cons, write_of_not_lacks hsize (hwhole.not_lacks _)]
      apply ih
      · rwa [Whole, rows_put, columns_put, size_put]
      · rwa [size_put]

theorem Whole.serve_ok (hwhole : plan.Whole) (hsize : plan.tiles.size < wordCount) {σ : Type}
    {source : Source σ} {cells : List Position} {vegans others : Nat} {state rest : σ}
    (hfits : vegans + others < memoryLimit) {attempt : Attempt Fault Service}
    (hserve : DishPlanner.serve source plan cells vegans others state = some (attempt, rest)) :
    ∃ service, attempt.result = .ok service := by
  rw [serve_of_lt plan cells hfits] at hserve
  simp only [Draw.bind_apply, Option.bind_eq_some_iff] at hserve
  obtain ⟨⟨cellSwaps, middle⟩, -, ⟨dishSwaps, last⟩, -, hpure⟩ := hserve
  obtain ⟨rfl, -⟩ := Prod.mk.inj (Option.some.inj hpure)
  simp only [serveWith, serveInOrder, arrange, hwhole.serve_eq hsize]
  exact ⟨_, rfl⟩

/-- A preparation on a whole plan ends with a dinner or for want of a kitchen. -/
theorem Whole.prepare_ne_fault (hwhole : plan.Whole) (hsize : plan.tiles.size < wordCount)
    {σ : Type} {source : Source σ} {rooms : Rooms} {people : List Position}
    {occupied : Position → Bool} {settings : Settings} {state rest : σ}
    {attempt : Attempt DinnerError Dinner} (hpeople : people.length < memoryLimit)
    (hprepare : prepare source plan rooms people occupied settings state = some (attempt, rest))
    (fault : Fault) : attempt.result ≠ .error (.fault fault) := by
  cases hkitchen : rooms.find? settings.kitchenKey with
  | none =>
      rw [prepare_of_find?_eq_none hkitchen] at hprepare
      obtain ⟨rfl, -⟩ := Prod.mk.inj (Option.some.inj hprepare)
      intro hfault
      cases hfault
  | some kitchen =>
      obtain ⟨cells, hcells⟩ := hwhole.exists_freeFloor hsize kitchen occupied
      simp only [prepare, hkitchen, hcells, Draw.bind_apply, Option.bind_eq_some_iff] at hprepare
      obtain ⟨⟨roll, middle⟩, hroll, ⟨service, last⟩, hserve, hpure⟩ := hprepare
      have hcount := Roll.count_add_count_of_assign hroll
      obtain ⟨served, hserved⟩ := hwhole.serve_ok hsize (hcount ▸ hpeople) hserve
      obtain ⟨rfl, -⟩ := Prod.mk.inj (Option.some.inj hpure)
      obtain ⟨notices, result⟩ := service
      cases hserved
      intro hfault
      cases hfault

/-- No operation on the plan stops on a fault, whatever it is given. -/
structure Sturdy (plan : FloorPlan) : Prop where
  read : ∀ position, ∃ tile, plan.read position = .ok tile
  overwrite : ∀ position tile, ∃ result, plan.overwrite position tile = .ok result
  fill : ∀ zone tile, ∃ last, plan.fill zone tile = .ok last
  differences : ∀ other : FloorPlan, other.Whole → other.tiles.size < wordCount →
    (∃ found, plan.differences other = .ok found) ∧ ∃ found, other.differences plan = .ok found
  freeFloor : ∀ kitchen occupied, ∃ cells, freeFloor plan kitchen occupied = .ok cells
  prepare : ∀ {σ : Type} (source : Source σ) (rooms : Rooms) (people : List Position)
    (occupied : Position → Bool) (settings : Settings) (state rest : σ)
    (attempt : Attempt DinnerError Dinner), people.length < memoryLimit →
    prepare source plan rooms people occupied settings state = some (attempt, rest) →
    ∀ fault, attempt.result ≠ .error (.fault fault)

theorem Whole.sturdy (hwhole : plan.Whole) (hsize : plan.tiles.size < wordCount) :
    plan.Sturdy where
  read position := ⟨_, read_of_not_lacks hsize (hwhole.not_lacks position)⟩
  overwrite position tile := by
    have hwrite := write_of_not_lacks hsize (hwhole.not_lacks position) tile
    cases hresult : plan.overwrite position tile with
    | ok result => exact ⟨result, rfl⟩
    | error fault =>
        rw [write, hresult] at hwrite
        cases hwrite
  fill zone tile := by
    obtain ⟨last, hlast, -⟩ := fill_of_forall_not_lacks hsize
      (fun position (_ : position ∈ zone) => hwhole.not_lacks position) tile
    exact ⟨last, hlast⟩
  differences other hother hotherSize :=
    ⟨hwhole.exists_differences hsize hother hotherSize,
      hother.exists_differences hotherSize hwhole hsize⟩
  freeFloor := hwhole.exists_freeFloor hsize
  prepare _ _ _ _ _ _ _ _ hpeople hprepare := hwhole.prepare_ne_fault hsize hpeople hprepare

theorem WellFormed.sturdy (hplan : plan.WellFormed) : plan.Sturdy :=
  hplan.whole.sturdy (hplan.size_tiles ▸ hplan.area_lt)

/-! ## Operations on other plans -/

/-- Every operation on the plan stops on a fault when it is given the wrong thing.  Where all of the
plan is the kitchen and nobody stands in it, no dinner can be prepared. -/
structure Brittle (plan : FloorPlan) : Prop where
  read : ∃ position fault, plan.read position = .error fault
  overwrite : ∃ position, ∀ tile, ∃ fault, plan.overwrite position tile = .error fault
  fill : ∃ zone, ∀ tile, ∃ stopped, plan.fill zone tile = .error stopped
  differences : ∃ fault, plan.differences plan = .error fault
  freeFloor : ∃ kitchen fault, freeFloor plan kitchen (fun _ => false) = .error fault
  prepare : ∃ kitchen, ∀ {σ : Type} (source : Source σ) (rooms : Rooms) (people : List Position)
    (settings : Settings) (state : σ), rooms.find? settings.kitchenKey = some kitchen →
    ∃ attempt rest fault,
      prepare source plan rooms people (fun _ => false) settings state = some (attempt, rest) ∧
        attempt.result = .error (.fault fault)

theorem exists_freeFloor_eq_error (hsize : plan.tiles.size < wordCount)
    (hlacks : plan.Lacks position) :
    ∃ fault, freeFloor plan plan.zone (fun _ => false) = .error fault :=
  (surveys_select hsize plan.zone _ _).error_iff.mpr
    ⟨position, mem_zone.mpr hlacks.1, rfl, hlacks⟩

/-- A fault of the search for free cells ends a preparation once the roll is drawn. -/
theorem exists_prepare_eq_fault {kitchen : Zone} {occupied : Position → Bool} {fault : Fault}
    (hcells : freeFloor plan kitchen occupied = .error fault) {σ : Type} (source : Source σ)
    {rooms : Rooms} (people : List Position) {settings : Settings} (state : σ)
    (hkitchen : rooms.find? settings.kitchenKey = some kitchen) :
    ∃ attempt rest,
      prepare source plan rooms people occupied settings state = some (attempt, rest) ∧
        attempt.result = .error (.fault fault) := by
  obtain ⟨roll, middle, hroll⟩ := Roll.exists_assign source people.length state
  simp only [prepare, hkitchen, Draw.bind_apply, hroll, Option.bind_some, hcells]
  exact ⟨_, _, rfl, rfl⟩

theorem brittle_of_not_whole (hshort : ¬ plan.Whole) (hsize : plan.tiles.size < wordCount) :
    plan.Brittle := by
  obtain ⟨position, hlacks⟩ := exists_lacks hshort
  obtain ⟨fault, hcells⟩ := exists_freeFloor_eq_error hsize hlacks
  constructor
  case read => exact ⟨position, _, read_of_lacks hlacks⟩
  case overwrite =>
    refine ⟨position, fun tile => ⟨plan.lackFault position, ?_⟩⟩
    rw [overwrite, locate_of_lacks hlacks]
  case fill =>
    refine ⟨plan.zone, fun tile => ?_⟩
    obtain ⟨left, fault, -, hfill, -⟩ :=
      fill_of_lacks hsize ⟨position, mem_zone.mpr hlacks.1, hlacks⟩ tile
    exact ⟨(left, fault), hfill⟩
  case differences =>
    exact (surveys_differences hsize hsize).error_iff.mpr
      ⟨position, mem_sharedZone.mpr ⟨hlacks.1, hlacks.1⟩, .inl hlacks⟩
  case freeFloor => exact ⟨plan.zone, fault, hcells⟩
  case prepare =>
    refine ⟨plan.zone, fun source rooms people settings state hkitchen => ?_⟩
    obtain ⟨attempt, rest, hprepare, hresult⟩ :=
      exists_prepare_eq_fault hcells source people state hkitchen
    exact ⟨attempt, rest, fault, hprepare, hresult⟩

theorem Brittle.not_sturdy (hbrittle : plan.Brittle) : ¬ plan.Sturdy := by
  intro hsturdy
  obtain ⟨position, fault, hfault⟩ := hbrittle.read
  obtain ⟨tile, htile⟩ := hsturdy.read position
  rw [hfault] at htile
  cases htile

theorem sturdy_iff_whole (hsize : plan.tiles.size < wordCount) : plan.Sturdy ↔ plan.Whole := by
  refine ⟨fun hsturdy => ?_, fun hwhole => hwhole.sturdy hsize⟩
  by_contra hshort
  exact (brittle_of_not_whole hshort hsize).not_sturdy hsturdy

theorem brittle_iff_not_whole (hsize : plan.tiles.size < wordCount) :
    plan.Brittle ↔ ¬ plan.Whole :=
  ⟨fun hbrittle hwhole => hbrittle.not_sturdy (hwhole.sturdy hsize),
    fun hshort => brittle_of_not_whole hshort hsize⟩

end FloorPlan

end DishPlanner

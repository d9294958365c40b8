import DishPlanner.Proofs.Dinner.Season
import DishPlanner.Proofs.Roll.Choices

/-!
# When a dinner is refused

On a well-formed plan no preparation stops on a fault: places in the array and
counts of dishes stay in range, however far the kitchen reaches beyond the plan.
What is left is one reason for a refusal, a missing kitchen, and it is found
before anything is drawn or reported.
-/

namespace DishPlanner

variable {σ : Type}

/-- Behind the draws of a roll, the swaps of a number of cells and then those of
the dishes come to an end. -/
def ShufflesEnd (source : Source σ) (persons cells : Nat) (state : σ) : Prop :=
  ∀ roll middle, Roll.assign source persons state = some (roll, middle) →
    ∃ swaps next, source.drawSwaps cells middle = some (swaps, next) ∧
      (source.drawSwaps persons next).isSome

/-- The draws of a roll always end, so the shuffles decide whether a dinner is
drawn. -/
theorem isSome_drawDinner_iff {source : Source σ} {persons cells : Nat} {state : σ} :
    (drawDinner source persons cells state).isSome ↔
      ShufflesEnd source persons cells state := by
  obtain ⟨roll, middle, hroll⟩ := Roll.exists_assign source persons state
  simp only [drawDinner, ShufflesEnd, Draw.bind_apply, hroll, Option.bind_some]
  constructor
  · intro hends drawn next hdrawn
    obtain ⟨rfl, rfl⟩ := Prod.mk.inj (Option.some.inj hdrawn)
    cases hcells : source.drawSwaps cells middle with
    | none => simp [hcells] at hends
    | some drawn =>
        refine ⟨drawn.1, drawn.2, rfl, ?_⟩
        cases hdishes : source.drawSwaps persons drawn.2 with
        | none => simp [hcells, hdishes] at hends
        | some last => rfl
  · intro hends
    obtain ⟨swaps, next, hcells, hdishes⟩ := hends roll middle rfl
    obtain ⟨last, hlast⟩ := Option.isSome_iff_exists.mp hdishes
    rw [hcells, Option.bind_some, hlast]
    rfl

/-- The numbers that a preparation computes from positions and counts. -/
structure InRange (source : Source σ) (plan : FloorPlan) (persons : Nat) (state : σ) :
    Prop where
  offset_lt : ∀ position, plan.Covers position →
    position.row * plan.columns < wordCount
  place_lt : ∀ position, plan.Covers position →
    position.row * plan.columns + position.column < wordCount
  stored : ∀ position, plan.Covers position →
    position.row * plan.columns + position.column < plan.tiles.size
  dishes_lt : ∀ roll rest, Roll.assign source persons state = some (roll, rest) →
    roll.count .vegan + roll.count .nonVegetarian < memoryLimit

theorem FloorPlan.WellFormed.inRange {plan : FloorPlan} (hplan : plan.WellFormed)
    (source : Source σ) {persons : Nat} (hpersons : persons < memoryLimit) (state : σ) :
    InRange source plan persons state := by
  have hsize : plan.tiles.size < wordCount := hplan.size_tiles ▸ hplan.area_lt
  refine ⟨?_, ?_, fun position => hplan.index_lt, ?_⟩
  · intro position hcovers
    have hindex := hplan.index_lt hcovers
    omega
  · intro position hcovers
    exact Nat.lt_trans (hplan.index_lt hcovers) hsize
  · intro roll rest hroll
    rwa [Roll.count_add_count_of_assign hroll]

/-- How a preparation that started in `state` ends in `rest`: with a dinner, or
with a refusal if and only if there is no kitchen. -/
structure Settled (rooms : Rooms) (settings : Settings) (state : σ)
    (attempt : Attempt DinnerError Dinner) (rest : σ) : Prop where
  no_fault : ∀ fault, attempt.result ≠ .error (.fault fault)
  refused_iff : (∃ error, attempt.result = .error error) ↔
    rooms.find? settings.kitchenKey = none
  noKitchen : ∀ error, attempt.result = .error error →
    error = .noKitchen settings.kitchenKey
  /-- A refusal has drawn nothing. -/
  rest_eq : ∀ error, attempt.result = .error error → rest = state
  /-- A refusal has reported nothing. -/
  notices_eq : ∀ error, attempt.result = .error error → attempt.notices = []

theorem Settled.of_refused {rooms : Rooms} {settings : Settings}
    (hkitchen : rooms.find? settings.kitchenKey = none) (state : σ) :
    Settled rooms settings state ⟨[], .error (.noKitchen settings.kitchenKey)⟩ state where
  no_fault fault := by simp
  refused_iff := ⟨fun _ => hkitchen, fun _ => ⟨_, rfl⟩⟩
  noKitchen error herror := (Except.error.inj herror).symm
  rest_eq _ _ := rfl
  notices_eq _ _ := rfl

theorem Settled.of_dinner {rooms : Rooms} {settings : Settings} {kitchen : Zone}
    (hkitchen : rooms.find? settings.kitchenKey = some kitchen) (state rest : σ)
    (notices : List Notice) (dinner : Dinner) :
    Settled rooms settings state ⟨notices, .ok dinner⟩ rest where
  no_fault fault := by simp
  refused_iff := by simp [hkitchen]
  noKitchen _ herror := by cases herror
  rest_eq _ herror := by cases herror
  notices_eq _ herror := by cases herror

/-- Whatever the kitchen, the occupied cells and the crowd are: if the shuffles
end, so does a preparation, without a number out of range; only a missing
kitchen keeps it from its dinner, before anything was drawn. -/
theorem prepare_settled (source : Source σ) (state : σ) {plan : FloorPlan}
    (hplan : plan.WellFormed) (rooms : Rooms) (people : List Position)
    (hpeople : people.length < memoryLimit) (occupied : Position → Bool) (settings : Settings)
    (hends : ∀ kitchen cells, rooms.find? settings.kitchenKey = some kitchen →
      freeFloor plan kitchen occupied = .ok cells →
      ShufflesEnd source people.length cells.length state) :
    InRange source plan people.length state ∧
      ∃ attempt rest,
        prepare source plan rooms people occupied settings state = some (attempt, rest) ∧
          Settled rooms settings state attempt rest := by
  refine ⟨hplan.inRange source hpeople state, ?_⟩
  cases hkitchen : rooms.find? settings.kitchenKey with
  | none =>
      exact ⟨_, state, FloorPlan.prepare_of_find?_eq_none hkitchen source plan people occupied
        state, .of_refused hkitchen state⟩
  | some kitchen =>
      have hdraws := isSome_drawDinner_iff.mpr
        (hends kitchen _ hkitchen (hplan.freeFloor_eq kitchen occupied))
      obtain ⟨notices, dinner, rest, hprepare⟩ := hplan.exists_dinner hkitchen hpeople hdraws
      exact ⟨_, rest, hprepare, .of_dinner hkitchen state rest notices dinner⟩

/-! ## A kitchen without end -/

/-- The nook lies in a corner of this kitchen. -/
def endlessKitchen : Rooms :=
  .ofList [(Rooms.kitchenKey, ⟨⟨0, wordCount - 1⟩, ⟨0, wordCount - 1⟩⟩)]

/-- Three people in the nook, one of them far outside. -/
def nookCrowd : List Position := [⟨0, 2⟩, ⟨0, 2⟩, ⟨wordCount - 1, wordCount - 1⟩]

theorem prepare_settled_nook :
    Season.nook.WellFormed ∧ nookCrowd.length < memoryLimit ∧
      InRange Generator.source Season.nook nookCrowd.length (.scripted []) ∧
      ∃ attempt rest,
        prepare Generator.source Season.nook endlessKitchen nookCrowd (fun _ => false) {}
            (.scripted []) = some (attempt, rest) ∧
          Settled endlessKitchen {} (.scripted []) attempt rest ∧
          ∃ dinner, attempt.result = .ok dinner := by
  have hplan : Season.nook.WellFormed := ⟨by decide, by decide⟩
  have hpeople : nookCrowd.length < memoryLimit := by decide
  have hkitchen : endlessKitchen.find? ({} : Settings).kitchenKey =
      some ⟨⟨0, wordCount - 1⟩, ⟨0, wordCount - 1⟩⟩ := rfl
  have hends : ∀ kitchen cells, endlessKitchen.find? ({} : Settings).kitchenKey = some kitchen →
      freeFloor Season.nook kitchen (fun _ => false) = .ok cells →
      ShufflesEnd Generator.source nookCrowd.length cells.length (.scripted []) := by
    intro kitchen cells hfound hcells
    cases hkitchen.symm.trans hfound
    rw [hplan.freeFloor_eq] at hcells
    cases hcells
    apply isSome_drawDinner_iff.mp
    decide +kernel
  obtain ⟨hrange, attempt, rest, hprepare, hsettled⟩ := prepare_settled Generator.source
    (.scripted []) hplan endlessKitchen nookCrowd hpeople (fun _ => false) {} hends
  refine ⟨hplan, hpeople, hrange, attempt, rest, hprepare, hsettled, ?_⟩
  cases hresult : attempt.result with
  | error error =>
      have hnone := hsettled.refused_iff.mp ⟨error, hresult⟩
      rw [hkitchen] at hnone
      cases hnone
  | ok dinner => exact ⟨dinner, rfl⟩

end DishPlanner

import Mathlib.Data.Set.Card
import DishPlanner.Draw.Generator
import DishPlanner.Proofs.House.Guests

/-!
# Seats of guests

A cell is a seat if some room contains it and one can walk on it.  Guests get
different seats, as many as there are guests or seats, and houses with the same
seats seat their guests alike: neither the keys of the rooms, nor their order, nor
how they overlap has any influence.
-/

namespace DishPlanner

variable {σ : Type}

namespace House

variable {house : House}

/-- The cells of the plan on which a guest may stand. -/
def seats (house : House) : Set Position :=
  {position | house.plan.Covers position ∧ (∃ zone ∈ house.rooms.values, position ∈ zone) ∧
    (house.plan.read position = .ok (some .kitchenFloor) ∨
      ∃ code, house.plan.read position = .ok (some (.other code)))}

theorem mem_seats {position : Position} :
    position ∈ house.seats ↔
      house.plan.Covers position ∧ (∃ zone ∈ house.rooms.values, position ∈ zone) ∧
        (house.plan.read position = .ok (some .kitchenFloor) ∨
          ∃ code, house.plan.read position = .ok (some (.other code))) := Iff.rfl

/-- What is required of guests for whom a number of seats was asked. -/
structure Seated (house : House) (count : Nat) (guests : List Position) : Prop where
  nodup : guests.Nodup
  seated : ∀ position ∈ guests, position ∈ house.seats
  length_eq : guests.length = min count house.seats.ncard

theorem any_isWalkable_iff {tile : Option Tile} :
    tile.any Tile.isWalkable = true ↔
      tile = some .kitchenFloor ∨ ∃ code, tile = some (.other code) := by
  cases tile with
  | none => simp
  | some tile => cases tile <;> simp [Tile.isWalkable]

/-- The walkable cells are the seats. -/
theorem mem_walkable_iff_mem_seats (hplan : house.plan.WellFormed) {position : Position} :
    position ∈ house.walkable ↔ position ∈ house.seats := by
  rw [mem_walkable, any_isWalkable_iff, mem_seats, hplan.read_eq]
  simp only [Except.ok.injEq]
  constructor
  · intro hwalkable
    refine ⟨?_, hwalkable⟩
    obtain ⟨-, hfloor | ⟨code, hcode⟩⟩ := hwalkable
    · exact FloorPlan.covers_of_tileAt_eq_some hfloor
    · exact FloorPlan.covers_of_tileAt_eq_some hcode
  · exact And.right

theorem coe_toFinset_walkable (hplan : house.plan.WellFormed) :
    (house.walkable.toFinset : Set Position) = house.seats := by
  ext position
  rw [Finset.mem_coe, List.mem_toFinset, mem_walkable_iff_mem_seats hplan]

theorem finite_seats (hplan : house.plan.WellFormed) : house.seats.Finite := by
  rw [← coe_toFinset_walkable hplan]
  exact house.walkable.toFinset.finite_toSet

theorem ncard_seats (hplan : house.plan.WellFormed) :
    house.seats.ncard = house.walkable.length := by
  rw [← coe_toFinset_walkable hplan, Set.ncard_coe_finset,
    List.toFinset_card_of_nodup (nodup_walkable house)]

/-- Whatever swaps are drawn, guests are seated. -/
theorem seated_guests (hplan : house.plan.WellFormed) (swaps : List Nat) (count : Nat) :
    house.Seated count (house.guests swaps count) where
  nodup := by
    have hshuffled : (shuffled swaps house.walkable).Nodup :=
      (shuffled_perm swaps house.walkable).nodup_iff.mpr (nodup_walkable house)
    exact hshuffled.sublist (List.take_sublist count _)
  seated position hposition := by
    have hshuffled := List.mem_of_mem_take hposition
    exact (mem_walkable_iff_mem_seats hplan).mp ((shuffled_perm _ _).mem_iff.mp hshuffled)
  length_eq := by rw [guests, List.length_take, length_shuffled, ncard_seats hplan]

/-- Houses with the same seats have the same walkable cells, in reading order. -/
theorem walkable_eq_of_seats_eq {other : House} (hplan : house.plan.WellFormed)
    (hother : other.plan.WellFormed) (hseats : house.seats = other.seats) :
    house.walkable = other.walkable := by
  apply (pairwise_lt_walkable house).eq_of_mem_iff (pairwise_lt_walkable other)
  intro position
  rw [mem_walkable_iff_mem_seats hplan, mem_walkable_iff_mem_seats hother, hseats]

/-- Guests get different seats, as many as both guests and seats allow, as soon as the
shuffle of the seats ends.  Who sits where, and how far the source is read, depends on
the house through its seats only. -/
theorem seatGuests_seats (source : Source σ) (hplan : house.plan.WellFormed) (count : Nat)
    (state : σ) :
    house.seats.Finite ∧
    ((house.seatGuests source count state).isSome ↔
      (source.drawSwaps house.seats.ncard state).isSome) ∧
    (∀ result rest, house.seatGuests source count state = some (result, rest) →
      ∃ guests, result = .ok guests ∧ house.Seated count guests) ∧
    ∀ other : House, other.plan.WellFormed → other.seats = house.seats →
      other.seatGuests source count state = house.seatGuests source count state := by
  refine ⟨finite_seats hplan, ?_, ?_, ?_⟩
  · rw [seatGuests_eq hplan, ncard_seats hplan, Option.isSome_map]
  · intro result rest hseated
    rw [seatGuests_eq hplan, Option.map_eq_some_iff] at hseated
    obtain ⟨drawn, -, hdrawn⟩ := hseated
    obtain ⟨rfl, -⟩ := Prod.mk.inj hdrawn
    exact ⟨_, rfl, seated_guests hplan drawn.1 count⟩
  · intro other hother hseats
    have hwalkable := walkable_eq_of_seats_eq hother hplan hseats
    simp only [seatGuests_eq hother, seatGuests_eq hplan, guests, hwalkable]

/-- A house of four seats whose rooms overlap, reach beyond the plan and end before they
start. -/
def parlour : House where
  plan := ⟨2, 3, #[.kitchenFloor, .other 'L', .wall, .other 'L', .kitchenFloor, .door]⟩
  rooms := .ofList
    [ (Rooms.kitchenKey, ⟨⟨0, 2⟩, ⟨0, 2⟩⟩),
      (Rooms.livingRoomKey, ⟨⟨0, wordCount - 1⟩, ⟨1, wordCount - 1⟩⟩),
      (Rooms.bedroomKey, ⟨⟨2, 0⟩, ⟨0, 3⟩⟩) ]

/-- The parlour with a single room. -/
def openParlour : House where
  plan := parlour.plan
  rooms := .ofList [(Rooms.bathroomKey, ⟨⟨0, 2⟩, ⟨0, 3⟩⟩)]

theorem seatGuests_seats_parlour :
    parlour.plan.WellFormed ∧ openParlour.seats = parlour.seats ∧
      parlour.seats.ncard = 4 ∧
      ∃ guests rest,
        parlour.seatGuests Generator.source 3 (.scripted [7]) = some (.ok guests, rest) ∧
          parlour.Seated 3 guests ∧
          openParlour.seatGuests Generator.source 3 (.scripted [7]) = some (.ok guests, rest) := by
  have hplan : parlour.plan.WellFormed := ⟨by decide, by decide⟩
  have hopen : openParlour.plan.WellFormed := hplan
  have hwalkable : openParlour.walkable = parlour.walkable := by decide +kernel
  have hseats : openParlour.seats = parlour.seats := by
    rw [← coe_toFinset_walkable hplan, ← coe_toFinset_walkable hopen, hwalkable]
  have hcount : parlour.seats.ncard = 4 := by
    rw [ncard_seats hplan]
    decide +kernel
  obtain ⟨-, hends, hseated, halike⟩ :=
    seatGuests_seats Generator.source hplan 3 (.scripted [7])
  have hdraws : (Generator.source.drawSwaps 4 (.scripted [7])).isSome := by decide +kernel
  rw [hcount] at hends
  obtain ⟨⟨result, rest⟩, hfound⟩ := Option.isSome_iff_exists.mp (hends.mpr hdraws)
  obtain ⟨guests, rfl, hguests⟩ := hseated result rest hfound
  exact ⟨hplan, hseats, hcount, guests, rest, hfound, hguests,
    (halike openParlour hopen hseats).trans hfound⟩

end House

end DishPlanner

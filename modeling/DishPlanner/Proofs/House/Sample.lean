import DishPlanner.House.Basic
import DishPlanner.Proofs.Floor.Rows

/-!
# The sample house

The steps that build the sample house lead to this picture, and nothing stops
them.  What is true of the house is read off the picture.
-/

namespace DishPlanner

namespace House

/-- The rows of the sample house. -/
def sampleLines : List String :=
  [ "WWWWWWWWWWWWWWWW",
    "WkkkkkFWLLLLLLLW",
    "WKKKKKKWLLLLLLLW",
    "WKKKKKKdLLLLLLLW",
    "WKKKKKKWLLLLLLLW",
    "WWWdWWWWWWWWWWWW",
    "WBBBBBBWTTTWWWWW",
    "WBBBBBBdTTTWWWWW",
    "WBBBBBBWTTTWWWWW",
    "WWWWWWWWWWWWdWWW" ]

/-- The kitchen of the sample house. -/
def sampleKitchen : Zone := ⟨⟨1, 5⟩, ⟨1, 7⟩⟩

/-- The sample house. -/
def sample : House where
  plan := ⟨10, 16, (sampleLines.flatMap fun line => line.toList.map Tile.ofCode).toArray⟩
  rooms := .ofList
    [ (Rooms.kitchenKey, sampleKitchen),
      (Rooms.livingRoomKey, ⟨⟨1, 5⟩, ⟨8, 15⟩⟩),
      (Rooms.bedroomKey, ⟨⟨6, 9⟩, ⟨1, 7⟩⟩),
      (Rooms.bathroomKey, ⟨⟨6, 9⟩, ⟨8, 11⟩⟩) ]

/-- The steps that build the sample house lead to its picture. -/
theorem buildSample_eq : buildSample = .ok sample := by
  have hbuilt : buildSample.toOption = some sample := by decide +kernel
  cases hbuild : buildSample with
  | ok house =>
      rw [hbuild] at hbuilt
      exact congrArg Except.ok (Option.some.inj hbuilt)
  | error fault =>
      rw [hbuild] at hbuilt
      cases hbuilt

theorem wellFormed_sample : sample.plan.WellFormed :=
  ⟨by decide +kernel, by decide +kernel⟩

theorem find?_kitchen_sample :
    sample.rooms.find? ({} : Settings).kitchenKey = some sampleKitchen := by
  decide

end House

end DishPlanner

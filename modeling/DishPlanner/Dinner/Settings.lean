import DishPlanner.Draw.Generator
import DishPlanner.Floor.Zone
import DishPlanner.OrderedMap

/-!
# Rooms and settings

Rooms are zones under one-character keys; the settings say which of them is the
kitchen and which seed a dinner draws from.
-/

namespace DishPlanner

/-- The rooms of a house by key, ascending. -/
abbrev Rooms := OrderedMap Char Zone

namespace Rooms

/-- The usual key of the kitchen. -/
def kitchenKey : Char := 'K'

/-- The usual key of the living room. -/
def livingRoomKey : Char := 'L'

/-- The usual key of the bedroom. -/
def bedroomKey : Char := 'B'

/-- The usual key of the bathroom. -/
def bathroomKey : Char := 'T'

end Rooms

/-- How a dinner is prepared. -/
structure Settings where
  /-- The key of the room that dishes are placed in. -/
  kitchenKey : Char := Rooms.kitchenKey
  /-- The seed to draw from, if one is fixed. -/
  seed : Option UInt64 := none
deriving DecidableEq, Repr, Inhabited

/-- A fresh generator of the fixed seed, or `fallback` without one. -/
def Settings.generator (settings : Settings) (fallback : Generator) : Generator :=
  (settings.seed.map Generator.ofSeed).getD fallback

end DishPlanner

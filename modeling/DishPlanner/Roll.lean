import DishPlanner.Diet
import DishPlanner.OrderedMap

/-!
# The roll of diets

The roll lists persons by number with their diets.  `Roll.assign` fills it for
the persons `1, …, count`: the first half chooses freely, and behind it a person
who finds a diet that nobody holds yet must take it.  From two persons on both
diets are therefore present.
-/

namespace DishPlanner

/-- Persons by number with their diets, ascending. -/
abbrev Roll := OrderedMap Nat Diet

namespace Roll

/-- The roll that gives the persons from 1 on the listed diets. -/
def ofDiets (diets : List Diet) : Roll where
  entries := (List.range' 1 diets.length).zip diets
  ascending := by
    rw [← List.pairwise_map (f := Prod.fst) (R := (· < ·)), List.map_fst_zip (by simp)]
    exact List.pairwise_lt_range'

@[simp]
theorem keys_ofDiets (diets : List Diet) :
    (ofDiets diets).keys = List.range' 1 diets.length :=
  List.map_fst_zip (by simp)

@[simp]
theorem values_ofDiets (diets : List Diet) : (ofDiets diets).values = diets :=
  List.map_snd_zip (by simp)

/-- The diet that the next person has to take, if any, when the first `free` persons choose and
the persons before hold each diet `vegans` and `others` times. -/
def required (free vegans others : Nat) : Option Diet :=
  if vegans + others < free then none
  else if vegans = 0 then some .vegan
  else if others = 0 then some .nonVegetarian
  else none

/-- Draws the diets of `remaining` more persons and puts them behind `given`, the latest first,
in which each diet occurs `vegans` and `others` times. -/
def assignFrom {σ : Type} (source : Source σ) (free : Nat) :
    (remaining vegans others : Nat) → (given : List Diet) → Draw σ (List Diet)
  | 0, _, _, given => pure given.reverse
  | remaining + 1, vegans, others, given => do
      let diet ← match required free vegans others with
        | some diet => pure diet
        | none => Diet.draw source
      match diet with
      | .vegan => assignFrom source free remaining (vegans + 1) others (diet :: given)
      | .nonVegetarian => assignFrom source free remaining vegans (others + 1) (diet :: given)

/-- Draws the diets of the persons `1, …, count`. -/
def assign {σ : Type} (source : Source σ) (count : Nat) : Draw σ Roll := do
  return ofDiets (← assignFrom source (count / 2) count 0 0 [])

/-- How many persons hold a diet. -/
def count (roll : Roll) (diet : Diet) : Nat := roll.values.count diet

/-- The persons who hold a diet, ascending. -/
def holders (roll : Roll) (diet : Diet) : List Nat :=
  (roll.entries.filter fun entry => entry.2 = diet).map Prod.fst

/-- The diet of a person. -/
def dietOf (roll : Roll) (person : Nat) : Option Diet := roll.find? person

/-- What is written for a person without a diet. -/
def unknownLabel : String := "unknown"

/-- What is written for a person's diet. -/
def label (roll : Roll) (person : Nat) : String :=
  ((roll.dietOf person).map Diet.name).getD unknownLabel

end Roll

end DishPlanner

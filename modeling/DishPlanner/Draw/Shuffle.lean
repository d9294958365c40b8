import DishPlanner.Draw.Source

/-!
# Shuffles

A shuffle goes down the places of a list from the last to the second and swaps
each with a place that is not behind it.  Drawing the swaps and applying them
are separate: `Source.drawSwaps` is all that reads the source, and `shuffled` is
a function of the list and of the swaps.
-/

namespace DishPlanner

/-- Draws the swaps for the places below `length`, last place first, behind those in `drawn`. -/
def Source.drawSwapsFrom {σ : Type} (source : Source σ) : Nat → List Nat → Draw σ (List Nat)
  | 0, drawn => pure drawn.reverse
  | 1, drawn => pure drawn.reverse
  | place + 2, drawn => do
      let partner ← source.below (.fitting (place + 2)) (place + 2)
      source.drawSwapsFrom (place + 1) (partner :: drawn)

/-- Draws one swap partner for every place of a list from the last down to the second. -/
def Source.drawSwaps {σ : Type} (source : Source σ) (length : Nat) : Draw σ (List Nat) :=
  source.drawSwapsFrom length []

/-- Swaps `place` with the first partner, the place before it with the second, and so on. -/
def swapDown {α : Type} : (place : Nat) → (partners : List Nat) → Array α → Array α
  | _, [], items => items
  | place, partner :: partners, items =>
      swapDown (place - 1) partners (items.swapIfInBounds place partner)

@[simp]
theorem size_swapDown {α : Type} (place : Nat) (partners : List Nat) (items : Array α) :
    (swapDown place partners items).size = items.size := by
  induction partners generalizing place items with
  | nil => rfl
  | cons partner partners ih => rw [swapDown, ih, Array.size_swapIfInBounds]

/-- Swaps only reorder. -/
theorem swapDown_perm {α : Type} (place : Nat) (partners : List Nat) (items : Array α) :
    (swapDown place partners items).Perm items := by
  induction partners generalizing place items with
  | nil => exact .refl _
  | cons partner partners ih =>
      have hswap : (items.swapIfInBounds place partner).Perm items := by
        by_cases hplace : place < items.size
        · by_cases hpartner : partner < items.size
          · rw [Array.swapIfInBounds_def, dif_pos hplace, dif_pos hpartner]
            exact Array.swap_perm hplace hpartner
          · rw [Array.swapIfInBounds_def, dif_pos hplace, dif_neg hpartner]
        · rw [Array.swapIfInBounds_def, dif_neg hplace]
      exact (ih (place - 1) _).trans hswap

/-- The list after the swaps that `Source.drawSwaps` lists for its length. -/
def shuffled {α : Type} (partners : List Nat) (items : List α) : List α :=
  (swapDown (items.length - 1) partners items.toArray).toList

@[simp]
theorem length_shuffled {α : Type} (partners : List Nat) (items : List α) :
    (shuffled partners items).length = items.length := by
  rw [shuffled, Array.length_toList, size_swapDown, List.size_toArray]

/-- A shuffled list is a reordering of the list, whatever the swaps are. -/
theorem shuffled_perm {α : Type} (partners : List Nat) (items : List α) :
    (shuffled partners items).Perm items :=
  (swapDown_perm _ partners items.toArray).toList

/-- Shuffles a list. -/
def Source.shuffle {σ α : Type} (source : Source σ) (items : List α) : Draw σ (List α) := do
  let partners ← source.drawSwaps items.length
  return shuffled partners items

end DishPlanner

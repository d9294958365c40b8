import Mathlib.Data.List.FinRange
import DishPlanner.Draw.Shuffle

/-!
# What a shuffle looks at

Shuffling moves items without looking at them: renaming the items of a list and
shuffling it commute.  Every shuffle of a list is therefore the same shuffle of
its places, followed by looking the places up.
-/

namespace DishPlanner

variable {α β : Type}

theorem map_swapIfInBounds (rename : α → β) (items : Array α) (left right : Nat) :
    (items.swapIfInBounds left right).map rename =
      (items.map rename).swapIfInBounds left right := by
  apply Array.ext
  · simp
  · intro place hplace _
    simp only [Array.getElem_map, Array.getElem_swapIfInBounds, Array.size_map]
    split_ifs <;> rfl

theorem map_swapDown (rename : α → β) (place : Nat) (partners : List Nat)
    (items : Array α) :
    (swapDown place partners items).map rename =
      swapDown place partners (items.map rename) := by
  induction partners generalizing place items with
  | nil => rfl
  | cons partner partners ih => rw [swapDown, ih, map_swapIfInBounds, swapDown]

/-- Renaming the items of a shuffled list is shuffling the renamed items. -/
theorem map_shuffled (rename : α → β) (partners : List Nat) (items : List α) :
    (shuffled partners items).map rename = shuffled partners (items.map rename) := by
  rw [shuffled, shuffled, List.length_map, ← Array.toList_map, map_swapDown,
    List.map_toArray]

/-- Shuffling a list is shuffling its places and looking them up. -/
theorem shuffled_eq_map_get (partners : List Nat) (items : List α) :
    shuffled partners items =
      (shuffled partners (List.finRange items.length)).map items.get := by
  rw [map_shuffled, List.map_get_finRange]

/-- Where an item of a list without repetition stands after a shuffle is decided
by its place and by the length of the list. -/
theorem stands_shuffled_iff {partners : List Nat} {items : List α} (hitems : items.Nodup)
    {number place : Nat} :
    (∃ item, (shuffled partners items)[number]? = some item ∧ items[place]? = some item) ↔
      ∃ hplace : place < items.length,
        (shuffled partners (List.finRange items.length))[number]? = some ⟨place, hplace⟩ := by
  simp only [shuffled_eq_map_get partners items, List.getElem?_map, Option.map_eq_some_iff]
  constructor
  · rintro ⟨_, ⟨index, hindex, rfl⟩, hitem⟩
    obtain ⟨hplace, hitem⟩ := List.getElem?_eq_some_iff.mp hitem
    have hsame : index = ⟨place, hplace⟩ := hitems.injective_get hitem.symm
    exact ⟨hplace, by rw [hindex, hsame]⟩
  · rintro ⟨hplace, hindex⟩
    exact ⟨items[place], ⟨_, hindex, rfl⟩, List.getElem?_eq_getElem hplace⟩

end DishPlanner

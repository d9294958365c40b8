import Mathlib.Data.List.Sort
import DishPlanner.Roll

/-!
# The holders of the diets

A person stands in the list of a diet exactly when the roll gives the person this
diet.  Since a roll is determined by its entries, the two lists of holders
determine it.
-/

namespace DishPlanner

/-- A map with ascending keys is determined by the entries that occur in it. -/
theorem OrderedMap.eq_of_mem_iff {κ α : Type} [LT κ] [OrderedKey κ]
    {left right : OrderedMap κ α}
    (hmem : ∀ entry, entry ∈ left.entries ↔ entry ∈ right.entries) : left = right := by
  have hirrefl : Std.Irrefl fun earlier later : κ × α => earlier.1 < later.1 :=
    ⟨fun entry => OrderedKey.irrefl entry.1⟩
  have hantisymm : Std.Antisymm fun earlier later : κ × α => earlier.1 < later.1 :=
    ⟨fun _ _ hleft hright => (OrderedKey.irrefl _ (OrderedKey.trans hleft hright)).elim⟩
  exact OrderedMap.ext (left.ascending.eq_of_mem_iff right.ascending fun entry => hmem entry)

namespace Roll

@[simp]
theorem mem_holders {roll : Roll} {diet : Diet} {person : Nat} :
    person ∈ roll.holders diet ↔ (person, diet) ∈ roll.entries := by
  simp [holders]

theorem eq_of_holders_eq {left right : Roll}
    (hholders : ∀ diet, left.holders diet = right.holders diet) : left = right := by
  apply OrderedMap.eq_of_mem_iff
  intro entry
  rw [← mem_holders, hholders, mem_holders]

end Roll

end DishPlanner

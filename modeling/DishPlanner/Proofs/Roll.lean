import DishPlanner.Roll

/-!
# Rolls that are drawn

However the coins fall, the roll of a number of persons lists each of them once
with one diet, so the holders of the two diets are all the persons.
-/

namespace DishPlanner

variable {σ : Type}

namespace Roll

/-- The next person's diet: the one that has to be taken, or a drawn one. -/
def nextDiet (source : Source σ) : Option Diet → Draw σ Diet
  | some diet => pure diet
  | none => Diet.draw source

theorem assignFrom_succ (source : Source σ) (free remaining vegans others : Nat)
    (given : List Diet) :
    assignFrom source free (remaining + 1) vegans others given =
      nextDiet source (required free vegans others) >>= fun diet =>
        match diet with
        | .vegan => assignFrom source free remaining (vegans + 1) others (diet :: given)
        | .nonVegetarian =>
            assignFrom source free remaining vegans (others + 1) (diet :: given) := by
  rw [assignFrom]
  cases required free vegans others with
  | none => rfl
  | some diet => rfl

theorem length_assignFrom {source : Source σ} {free remaining vegans others : Nat}
    {given diets : List Diet} {state rest : σ}
    (hdraws : assignFrom source free remaining vegans others given state =
      some (diets, rest)) :
    diets.length = given.length + remaining := by
  induction remaining generalizing vegans others given state with
  | zero =>
      obtain ⟨rfl, -⟩ := Prod.mk.inj (Option.some.inj hdraws)
      simp
  | succ remaining ih =>
      rw [assignFrom_succ, Draw.bind_apply, Option.bind_eq_some_iff] at hdraws
      obtain ⟨⟨diet, middle⟩, -, hremaining⟩ := hdraws
      cases diet with
      | vegan =>
          have hlength := ih hremaining
          rw [List.length_cons] at hlength
          omega
      | nonVegetarian =>
          have hlength := ih hremaining
          rw [List.length_cons] at hlength
          omega

/-- A drawn roll gives one diet to each of the persons from 1 on. -/
theorem assign_eq_some {source : Source σ} {persons : Nat} {roll : Roll} {state rest : σ}
    (hdraws : assign source persons state = some (roll, rest)) :
    ∃ diets : List Diet, diets.length = persons ∧ roll = ofDiets diets := by
  rw [assign, Draw.bind_apply, Option.bind_eq_some_iff] at hdraws
  obtain ⟨⟨diets, middle⟩, hdiets, hroll⟩ := hdraws
  refine ⟨diets, ?_, ?_⟩
  · simpa using length_assignFrom hdiets
  · exact (Prod.mk.inj (Option.some.inj hroll)).1.symm

theorem count_vegan_add_count_nonVegetarian (diets : List Diet) :
    diets.count .vegan + diets.count .nonVegetarian = diets.length := by
  induction diets with
  | nil => rfl
  | cons diet diets ih =>
      rw [List.count_cons, List.count_cons, List.length_cons]
      cases diet with
      | vegan =>
          rw [if_pos (by decide), if_neg (by decide)]
          omega
      | nonVegetarian =>
          rw [if_neg (by decide), if_pos (by decide)]
          omega

/-- The persons with the two diets are all persons. -/
theorem count_add_count_of_assign {source : Source σ} {persons : Nat} {roll : Roll}
    {state rest : σ} (hdraws : assign source persons state = some (roll, rest)) :
    roll.count .vegan + roll.count .nonVegetarian = persons := by
  obtain ⟨diets, hlength, rfl⟩ := assign_eq_some hdraws
  rw [count, count, values_ofDiets, count_vegan_add_count_nonVegetarian, hlength]

theorem length_holders (roll : Roll) (diet : Diet) :
    (roll.holders diet).length = roll.count diet := by
  rw [holders, count, OrderedMap.values, List.length_map, List.count_eq_countP,
    List.countP_map, List.countP_eq_length_filter]
  rfl

end Roll

end DishPlanner

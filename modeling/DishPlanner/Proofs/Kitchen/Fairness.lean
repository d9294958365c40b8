import DishPlanner.Draw.Generator
import DishPlanner.Proofs.Draw.Arrangements
import DishPlanner.Proofs.Kitchen.Laying

/-!
# Fair service

A round of service is a function of two lists of swaps.  Whoever draws them
evenly treats all cells and all dishes alike: every choice of cells in some
order together with every order of the dishes comes out, and equally many swaps
lead to each.
-/

namespace DishPlanner

open scoped Nat

/-- A way to serve dishes on cells: as many different cells as there can be, in
some order, and the dishes in some order, the first ones on the cells. -/
structure Service.Possible (cells : List Position) (vegans others : Nat)
    (servings : List Serving) (unplaced : List Diet) : Prop where
  length_servings : servings.length = min cells.length (vegans + others)
  nodup_positions : (servings.map Serving.position).Nodup
  positions_subset : servings.map Serving.position ⊆ cells
  count_vegan : (servings.map Serving.dish ++ unplaced).count .vegan = vegans
  count_nonVegetarian :
    (servings.map Serving.dish ++ unplaced).count .nonVegetarian = others

/-- The servings and the unplaced dishes of a round of service without a fault. -/
def Attempt.served (attempt : Attempt Fault Service) : Option (List Serving × List Diet) :=
  attempt.result.toOption.map fun service => (service.servings, service.unplaced)

/-- The swaps of the cells and of the dishes that lead to servings and unplaced dishes. -/
def swapsTo (plan : FloorPlan) (cells : List Position) (vegans others : Nat)
    (servings : List Serving) (unplaced : List Diet) : Finset (List Nat × List Nat) :=
  (swapChoices cells.length ×ˢ swapChoices (vegans + others)).filter fun swaps =>
    (serveWith plan cells vegans others swaps.1 swaps.2).served = some (servings, unplaced)

variable {plan : FloorPlan} {cells : List Position} {vegans others : Nat}
  {servings : List Serving} {unplaced : List Diet}

theorem Serving.eq_of_map_eq {left right : List Serving}
    (hpositions : left.map position = right.map position)
    (hdishes : left.map dish = right.map dish) : left = right := by
  have hpairs : left.map (fun serving => (serving.position, serving.dish)) =
      right.map fun serving => (serving.position, serving.dish) := by
    rw [← List.zip_map', ← List.zip_map', hpositions, hdishes]
  apply List.map_injective_iff.mpr _ hpairs
  intro first second hpair
  exact Serving.ext (Prod.mk.inj hpair).1 (Prod.mk.inj hpair).2

/-- Pairing is undone by reading the cells and the dishes off the pairs. -/
theorem Service.paired_eq_iff {dishes : List Diet} :
    (paired plan cells dishes).servings = servings ∧
        (paired plan cells dishes).unplaced = unplaced ↔
      cells.take dishes.length = servings.map Serving.position ∧
        dishes = servings.map Serving.dish ++ unplaced := by
  constructor
  · rintro ⟨rfl, rfl⟩
    exact ⟨(positions_paired _ _ _).symm, (dishes_append_unplaced_paired _ _ _).symm⟩
  · rintro ⟨hstart, horder⟩
    have hpositions := (positions_paired plan cells dishes).trans hstart
    have hdishes := (dishes_append_unplaced_paired plan cells dishes).trans horder
    have hlength := congrArg List.length hpositions
    rw [List.length_map, List.length_map] at hlength
    obtain ⟨hplaced, hunplaced⟩ :=
      List.append_inj hdishes (by rw [List.length_map, List.length_map, hlength])
    exact ⟨Serving.eq_of_map_eq hpositions hplaced, hunplaced⟩

/-- What comes out depends on the start of the shuffled cells and on the shuffled dishes. -/
theorem FloorPlan.WellFormed.served_eq_some_iff (hplan : plan.WellFormed)
    {cellSwaps dishSwaps : List Nat} :
    (serveWith plan cells vegans others cellSwaps dishSwaps).served =
        some (servings, unplaced) ↔
      (shuffled cellSwaps cells).take (vegans + others) = servings.map Serving.position ∧
        shuffled dishSwaps (sortedDishes vegans others) =
          servings.map Serving.dish ++ unplaced := by
  let service := Service.paired plan (shuffled cellSwaps cells)
    (shuffled dishSwaps (sortedDishes vegans others))
  calc
    (serveWith plan cells vegans others cellSwaps dishSwaps).served = some (servings, unplaced) ↔
        service.servings = servings ∧ service.unplaced = unplaced := by
      rw [hplan.serveWith_eq]
      exact Option.some_inj.trans Prod.mk_inj
    _ ↔ _ := by
      rw [Service.paired_eq_iff, length_shuffled, length_sortedDishes]

theorem perm_sortedDishes {dishes : List Diet} (hvegans : dishes.count .vegan = vegans)
    (hothers : dishes.count .nonVegetarian = others) :
    dishes.Perm (sortedDishes vegans others) := by
  apply List.perm_iff_count.mpr
  intro diet
  cases diet with
  | vegan => rw [hvegans, count_vegan_sortedDishes]
  | nonVegetarian => rw [hothers, count_nonVegetarian_sortedDishes]

/-- Dishes of one kind are told apart by nothing. -/
theorem repeats_eq_factorial_mul {dishes : List Diet} (hvegans : dishes.count .vegan = vegans)
    (hothers : dishes.count .nonVegetarian = others) :
    repeats dishes = vegans ! * others ! := by
  have hkinds : dishes.toFinset ⊆ {.vegan, .nonVegetarian} := by
    intro diet _
    cases diet <;> decide
  rw [repeats_eq_prod hkinds, Finset.prod_pair (by decide), hvegans, hothers]

namespace Service.Possible

/-- A round of service ends in no other way. -/
theorem of_served (hplan : plan.WellFormed) (hcells : cells.Nodup) {cellSwaps dishSwaps : List Nat}
    (hserved : (serveWith plan cells vegans others cellSwaps dishSwaps).served =
      some (servings, unplaced)) :
    Possible cells vegans others servings unplaced := by
  obtain ⟨hstart, horder⟩ := hplan.served_eq_some_iff.mp hserved
  have hdishes := shuffled_perm dishSwaps (sortedDishes vegans others)
  have hshuffled := shuffled_perm cellSwaps cells
  rw [horder] at hdishes
  constructor
  · rw [← List.length_map Serving.position, ← hstart, List.length_take, length_shuffled, min_comm]
  · rw [← hstart]
    exact (hshuffled.nodup_iff.mpr hcells).sublist (List.take_sublist _ _)
  · rw [← hstart]
    exact List.Subset.trans (List.take_subset _ _) hshuffled.subset
  · rw [hdishes.count_eq, count_vegan_sortedDishes]
  · rw [hdishes.count_eq, count_nonVegetarian_sortedDishes]

variable (hpossible : Possible cells vegans others servings unplaced)

include hpossible

theorem card_cellSwaps (hcells : cells.Nodup) :
    ((swapChoices cells.length).filter fun swaps =>
        (shuffled swaps cells).take (vegans + others) = servings.map Serving.position).card =
      (cells.length - (vegans + others))! := by
  have hlength : (servings.map Serving.position).length = min cells.length (vegans + others) := by
    rw [List.length_map, hpossible.length_servings]
  have hfilter : ((swapChoices cells.length).filter fun swaps =>
        (shuffled swaps cells).take (vegans + others) = servings.map Serving.position) =
      (swapChoices cells.length).filter fun swaps =>
        (shuffled swaps cells).take (servings.map Serving.position).length =
          servings.map Serving.position := by
    apply Finset.filter_congr
    intro swaps _
    rw [hlength, min_comm, ← length_shuffled swaps cells, ← List.take_eq_take_min]
  have hleft : cells.length - min cells.length (vegans + others) =
      cells.length - (vegans + others) := by
    omega
  rw [hfilter, card_shuffles_take hcells hpossible.nodup_positions hpossible.positions_subset,
    hlength, hleft]

theorem card_dishSwaps :
    ((swapChoices (vegans + others)).filter fun swaps =>
        shuffled swaps (sortedDishes vegans others) =
          servings.map Serving.dish ++ unplaced).card =
      vegans ! * others ! := by
  have hperm := perm_sortedDishes hpossible.count_vegan hpossible.count_nonVegetarian
  have hcard := card_shuffles hperm
  rw [length_sortedDishes] at hcard
  rw [hcard, repeats_eq_factorial_mul hpossible.count_vegan hpossible.count_nonVegetarian]

theorem card_swapsTo (hplan : plan.WellFormed) (hcells : cells.Nodup) :
    (swapsTo plan cells vegans others servings unplaced).card =
      (cells.length - (vegans + others))! * (vegans ! * others !) := by
  calc
    (swapsTo plan cells vegans others servings unplaced).card =
        (((swapChoices cells.length).filter fun swaps =>
            (shuffled swaps cells).take (vegans + others) = servings.map Serving.position) ×ˢ
          ((swapChoices (vegans + others)).filter fun swaps =>
            shuffled swaps (sortedDishes vegans others) =
              servings.map Serving.dish ++ unplaced)).card := by
      rw [← Finset.filter_product]
      apply congrArg Finset.card
      apply Finset.filter_congr
      intro swaps _
      exact hplan.served_eq_some_iff
    _ = (cells.length - (vegans + others))! * (vegans ! * others !) := by
      rw [Finset.card_product, hpossible.card_cellSwaps hcells, hpossible.card_dishSwaps]

end Service.Possible

/-- A round of service draws swaps of the cells and of the dishes, and is a function of them. -/
theorem serve_eq_some_iff {σ : Type} {source : Source σ} (hfits : vegans + others < memoryLimit)
    {attempt : Attempt Fault Service} {state rest : σ} :
    serve source plan cells vegans others state = some (attempt, rest) ↔
      ∃ cellSwaps ∈ swapChoices cells.length, ∃ dishSwaps ∈ swapChoices (vegans + others),
        ∃ middle, source.drawSwaps cells.length state = some (cellSwaps, middle) ∧
          source.drawSwaps (vegans + others) middle = some (dishSwaps, rest) ∧
          serveWith plan cells vegans others cellSwaps dishSwaps = attempt := by
  simp only [serve_of_lt plan cells hfits, Draw.bind_apply, Option.bind_eq_some_iff]
  constructor
  · rintro ⟨⟨cellSwaps, middle⟩, hcellSwaps, ⟨dishSwaps, last⟩, hdishSwaps, hpure⟩
    obtain ⟨rfl, rfl⟩ := Prod.mk.inj (Option.some.inj hpure)
    exact ⟨cellSwaps, Source.mem_swapChoices_of_drawSwaps hcellSwaps,
      dishSwaps, Source.mem_swapChoices_of_drawSwaps hdishSwaps,
      middle, hcellSwaps, hdishSwaps, rfl⟩
  · rintro ⟨cellSwaps, -, dishSwaps, -, middle, hcellSwaps, hdishSwaps, rfl⟩
    exact ⟨(cellSwaps, middle), hcellSwaps, (dishSwaps, rest), hdishSwaps, rfl⟩

/-- Service is fair: it is a function of swaps as far as there is room for the dishes,
the possible ways to serve dishes on different cells are those that swaps lead to, and
equally many swaps lead to each of them. -/
theorem serve_unbiased (hplan : plan.WellFormed) (hcells : cells.Nodup) :
    (∀ (σ : Type) (source : Source σ) (state rest : σ) (attempt : Attempt Fault Service),
      vegans + others < memoryLimit →
      (serve source plan cells vegans others state = some (attempt, rest) ↔
        ∃ cellSwaps ∈ swapChoices cells.length, ∃ dishSwaps ∈ swapChoices (vegans + others),
          ∃ middle, source.drawSwaps cells.length state = some (cellSwaps, middle) ∧
            source.drawSwaps (vegans + others) middle = some (dishSwaps, rest) ∧
            serveWith plan cells vegans others cellSwaps dishSwaps = attempt)) ∧
      (∀ servings unplaced, (swapsTo plan cells vegans others servings unplaced).Nonempty ↔
        Service.Possible cells vegans others servings unplaced) ∧
      ∀ servings unplaced, Service.Possible cells vegans others servings unplaced →
        (swapsTo plan cells vegans others servings unplaced).card =
          (cells.length - (vegans + others))! * (vegans ! * others !) := by
  refine ⟨?_, ?_, ?_⟩
  · intro σ source state rest attempt hfits
    exact serve_eq_some_iff hfits
  · intro servings unplaced
    constructor
    · rintro ⟨swaps, hswaps⟩
      exact .of_served hplan hcells (Finset.mem_filter.mp hswaps).2
    · intro hpossible
      apply Finset.card_pos.mp
      rw [hpossible.card_swapsTo hplan hcells]
      exact Nat.mul_pos (Nat.factorial_pos _)
        (Nat.mul_pos (Nat.factorial_pos _) (Nat.factorial_pos _))
  · intro servings unplaced hpossible
    exact hpossible.card_swapsTo hplan hcells

/-- A kitchen of two cells. -/
def ledge : FloorPlan := ⟨1, 2, #[.kitchenFloor, .kitchenFloor]⟩

/-- The two cells of the ledge. -/
def ledgeCells : List Position := [⟨0, 0⟩, ⟨0, 1⟩]

/-- Three dishes come for the two cells of the ledge.  They are served by some swaps, and two
pairs of swaps lead to any one way to serve them. -/
theorem serve_unbiased_ledge :
    ledge.WellFormed ∧ ledgeCells.Nodup ∧ 1 + 2 < memoryLimit ∧
      (∃ attempt rest,
        serve Generator.source ledge ledgeCells 1 2 (.scripted []) = some (attempt, rest) ∧
        ∃ cellSwaps ∈ swapChoices 2, ∃ dishSwaps ∈ swapChoices 3,
          serveWith ledge ledgeCells 1 2 cellSwaps dishSwaps = attempt) ∧
      Service.Possible ledgeCells 1 2
        [⟨⟨0, 1⟩, .nonVegetarian⟩, ⟨⟨0, 0⟩, .vegan⟩] [.nonVegetarian] ∧
      (swapsTo ledge ledgeCells 1 2
        [⟨⟨0, 1⟩, .nonVegetarian⟩, ⟨⟨0, 0⟩, .vegan⟩] [.nonVegetarian]).card = 2 := by
  have hplan : ledge.WellFormed := ⟨by decide, by decide⟩
  have hpossible : Service.Possible ledgeCells 1 2
      [⟨⟨0, 1⟩, .nonVegetarian⟩, ⟨⟨0, 0⟩, .vegan⟩] [.nonVegetarian] :=
    ⟨rfl, by decide, by decide, rfl, rfl⟩
  have hcells : ledgeCells.Nodup := by decide
  have hfits : 1 + 2 < memoryLimit := by decide
  have hends : (serve Generator.source ledge ledgeCells 1 2 (.scripted [])).isSome := rfl
  obtain ⟨hdrawn, -, hcard⟩ := @serve_unbiased ledge ledgeCells 1 2 hplan hcells
  obtain ⟨⟨attempt, rest⟩, hserve⟩ := Option.isSome_iff_exists.mp hends
  obtain ⟨cellSwaps, hcellSwaps, dishSwaps, hdishSwaps, -, -, -, hattempt⟩ :=
    (hdrawn _ _ _ _ _ hfits).mp hserve
  exact ⟨hplan, hcells, hfits,
    ⟨attempt, rest, hserve, cellSwaps, hcellSwaps, dishSwaps, hdishSwaps, hattempt⟩,
    hpossible, hcard _ _ hpossible⟩

end DishPlanner

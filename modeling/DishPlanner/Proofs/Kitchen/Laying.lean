import Mathlib.Data.List.Induction
import Mathlib.Data.List.Nodup
import Mathlib.Tactic.SplitIfs
import DishPlanner.Kitchen.Service
import DishPlanner.Proofs.Floor.Access

/-!
# Laying servings

On a well-formed plan servings are written without a fault, and a position
shows the last of them that stands on it.  Servings on different cells of
kitchen floor cover none of each other, so every one of them is visible and
takes the place of one tile of floor.
-/

namespace DishPlanner

/-- The last of the servings on a position. -/
def lastServing (servings : List Serving) (position : Position) : Option Serving :=
  servings.reverse.find? fun serving => serving.position = position

theorem lastServing_append_singleton (servings : List Serving) (serving : Serving)
    (position : Position) :
    lastServing (servings ++ [serving]) position =
      if serving.position = position then some serving
      else lastServing servings position := by
  rw [lastServing, List.reverse_append, List.reverse_singleton, List.singleton_append,
    List.find?_cons]
  by_cases hposition : serving.position = position
  · simp [hposition]
  · simp [hposition, lastServing]

theorem lastServing_eq_none {servings : List Serving} {position : Position}
    (hmem : position ∉ servings.map Serving.position) :
    lastServing servings position = none := by
  apply List.find?_eq_none.mpr
  intro serving hserving
  rw [decide_eq_true_eq]
  rintro rfl
  exact hmem (List.mem_map_of_mem (List.mem_reverse.mp hserving))

theorem nodup_positions_append_singleton {servings : List Serving} {serving : Serving} :
    ((servings ++ [serving]).map Serving.position).Nodup ↔
      serving.position ∉ servings.map Serving.position ∧
        (servings.map Serving.position).Nodup := by
  rw [List.map_append, List.map_singleton, ← List.concat_eq_append]
  exact List.nodup_concat _ _

/-- On pairwise different positions every serving is the last on its own. -/
theorem lastServing_eq_some {servings : List Serving} {serving : Serving}
    (hnodup : (servings.map Serving.position).Nodup) (hmem : serving ∈ servings) :
    lastServing servings serving.position = some serving := by
  -- The last serving decides, so the list is taken apart from its end.
  induction servings using List.reverseRecOn with
  | nil => simp at hmem
  | append_singleton servings last ih =>
      rw [lastServing_append_singleton]
      obtain ⟨hlast, hservings⟩ := nodup_positions_append_singleton.mp hnodup
      rcases List.mem_append.mp hmem with hearlier | hlatest
      · have hdifferent : last.position ≠ serving.position := by
          intro hequal
          exact hlast (hequal ▸ List.mem_map_of_mem hearlier)
        rw [if_neg hdifferent]
        exact ih hservings hearlier
      · rw [List.mem_singleton.mp hlatest, if_pos rfl]

namespace Diet

theorem dishTile_ne_kitchenFloor (diet : Diet) : diet.dishTile ≠ .kitchenFloor := by
  cases diet <;> simp [dishTile]

theorem dishTile_injective : Function.Injective dishTile := by
  intro left right hequal
  cases left <;> cases right <;> simp [dishTile] at hequal ⊢

end Diet

theorem countP_dishTile_eq_zero {tile : Tile}
    (htile : ∀ diet : Diet, diet.dishTile ≠ tile) (servings : List Serving) :
    (servings.countP fun serving => serving.dish.dishTile = tile) = 0 := by
  apply List.countP_eq_zero.mpr
  intro serving _
  rw [decide_eq_true_eq]
  exact htile serving.dish

namespace FloorPlan

variable {plan : FloorPlan}

/-- The plan with servings put on it, one after the other. -/
def lay (plan : FloorPlan) (servings : List Serving) : FloorPlan :=
  servings.foldl (fun plan serving => plan.put serving.position serving.dish.dishTile) plan

theorem lay_append_singleton (plan : FloorPlan) (servings : List Serving)
    (serving : Serving) :
    plan.lay (servings ++ [serving]) =
      (plan.lay servings).put serving.position serving.dish.dishTile := by
  rw [lay, List.foldl_append]
  rfl

@[simp]
theorem rows_lay (plan : FloorPlan) (servings : List Serving) :
    (plan.lay servings).rows = plan.rows := by
  induction servings using List.reverseRecOn with
  | nil => rfl
  | append_singleton servings serving ih => rw [lay_append_singleton, rows_put, ih]

@[simp]
theorem columns_lay (plan : FloorPlan) (servings : List Serving) :
    (plan.lay servings).columns = plan.columns := by
  induction servings using List.reverseRecOn with
  | nil => rfl
  | append_singleton servings serving ih => rw [lay_append_singleton, columns_put, ih]

@[simp]
theorem covers_lay {servings : List Serving} {position : Position} :
    (plan.lay servings).Covers position ↔ plan.Covers position := by
  simp only [Covers, rows_lay, columns_lay]

theorem WellFormed.lay (hplan : plan.WellFormed) (servings : List Serving) :
    (plan.lay servings).WellFormed := by
  induction servings using List.reverseRecOn with
  | nil => exact hplan
  | append_singleton servings serving ih =>
      rw [lay_append_singleton]
      exact ih.put _ _

theorem WellFormed.serve_eq (hplan : plan.WellFormed) (servings : List Serving) :
    plan.serve servings = .ok (plan.lay servings) := by
  induction servings generalizing plan with
  | nil => rfl
  | cons serving servings ih =>
      rw [FloorPlan.serve, List.foldlM_cons, hplan.write_eq]
      exact ih (hplan.put _ _)

/-- A covered position shows the last serving on it, or what it showed before
when none stands there. -/
theorem WellFormed.tileAt_lay (hplan : plan.WellFormed) (servings : List Serving)
    {position : Position} (hcovers : plan.Covers position) :
    (plan.lay servings).tileAt position =
      ((lastServing servings position).map fun serving => serving.dish.dishTile).or
        (plan.tileAt position) := by
  induction servings using List.reverseRecOn with
  | nil => rfl
  | append_singleton servings serving ih =>
      rw [lay_append_singleton, (hplan.lay servings).tileAt_put,
        lastServing_append_singleton]
      by_cases hposition : serving.position = position
      · rw [if_pos ⟨hposition.symm, covers_lay.mpr (hposition ▸ hcovers)⟩, if_pos hposition]
        rfl
      · rw [if_neg fun h => hposition h.1.symm, if_neg hposition, ih]

theorem WellFormed.tileAt_lay_of_not_mem (hplan : plan.WellFormed)
    {servings : List Serving} {position : Position}
    (hmem : position ∉ servings.map Serving.position) :
    (plan.lay servings).tileAt position = plan.tileAt position := by
  by_cases hcovers : plan.Covers position
  · rw [hplan.tileAt_lay servings hcovers, lastServing_eq_none hmem]
    rfl
  · rw [tileAt, tileAt, if_neg hcovers, if_neg fun h => hcovers (covers_lay.mp h)]

/-- Servings stand on different cells of kitchen floor. -/
structure OnFloor (plan : FloorPlan) (servings : List Serving) : Prop where
  nodup_positions : (servings.map Serving.position).Nodup
  floor : ∀ serving ∈ servings, plan.tileAt serving.position = some .kitchenFloor

theorem OnFloor.tileAt_lay {servings : List Serving} {serving : Serving}
    (honFloor : plan.OnFloor servings) (hplan : plan.WellFormed)
    (hmem : serving ∈ servings) :
    (plan.lay servings).tileAt serving.position = some serving.dish.dishTile := by
  have hcovers := covers_of_tileAt_eq_some (honFloor.floor serving hmem)
  rw [hplan.tileAt_lay servings hcovers, lastServing_eq_some honFloor.nodup_positions hmem]
  rfl

/-- Servings on different cells of kitchen floor turn one tile of floor each
into a tile of their dish. -/
theorem OnFloor.count_lay {servings : List Serving} (honFloor : plan.OnFloor servings)
    (hplan : plan.WellFormed) (tile : Tile) :
    (plan.lay servings).tiles.count tile +
        (if Tile.kitchenFloor = tile then servings.length else 0) =
      plan.tiles.count tile +
        servings.countP fun serving => serving.dish.dishTile = tile := by
  obtain ⟨hnodup, hfloor⟩ := honFloor
  induction servings using List.reverseRecOn with
  | nil => simp [lay]
  | append_singleton servings serving ih =>
      obtain ⟨hfree, hservings⟩ := nodup_positions_append_singleton.mp hnodup
      -- No earlier serving stands on this cell, so it still shows floor.
      have hbefore : (plan.lay servings).tileAt serving.position = some .kitchenFloor := by
        rw [hplan.tileAt_lay_of_not_mem hfree]
        exact hfloor serving (by simp)
      have hput := (hplan.lay servings).count_put hbefore serving.dish.dishTile tile
      have hrest := ih hservings fun other hother => hfloor other (by simp [hother])
      rw [lay_append_singleton, List.countP_append, List.countP_singleton,
        List.length_append, List.length_singleton]
      simp only [decide_eq_true_eq]
      split_ifs at hput hrest ⊢ <;> omega

theorem OnFloor.count_kitchenFloor_lay {servings : List Serving}
    (honFloor : plan.OnFloor servings) (hplan : plan.WellFormed) :
    (plan.lay servings).tiles.count .kitchenFloor + servings.length =
      plan.tiles.count .kitchenFloor := by
  have hcount := honFloor.count_lay hplan .kitchenFloor
  rwa [if_pos rfl, countP_dishTile_eq_zero Diet.dishTile_ne_kitchenFloor] at hcount

theorem OnFloor.count_dishTile_lay {servings : List Serving}
    (honFloor : plan.OnFloor servings) (hplan : plan.WellFormed) (diet : Diet) :
    (plan.lay servings).tiles.count diet.dishTile =
      plan.tiles.count diet.dishTile + (servings.map Serving.dish).count diet := by
  have hcount := honFloor.count_lay hplan diet.dishTile
  rw [if_neg diet.dishTile_ne_kitchenFloor.symm, Nat.add_zero] at hcount
  rw [hcount, List.count_eq_countP, List.countP_map]
  congr 1
  apply List.countP_congr
  intro serving _
  simp [Diet.dishTile_injective.eq_iff]

theorem OnFloor.count_other_lay {servings : List Serving}
    (honFloor : plan.OnFloor servings) (hplan : plan.WellFormed) {tile : Tile}
    (htile : tile ≠ .kitchenFloor) (hdish : ∀ diet : Diet, tile ≠ diet.dishTile) :
    (plan.lay servings).tiles.count tile = plan.tiles.count tile := by
  have hcount := honFloor.count_lay hplan tile
  rwa [if_neg htile.symm, countP_dishTile_eq_zero fun diet => (hdish diet).symm] at hcount

/-- Servings on different cells of kitchen floor are no more than the tiles of
kitchen floor. -/
theorem OnFloor.length_le_count {servings : List Serving}
    (honFloor : plan.OnFloor servings) (hplan : plan.WellFormed) :
    servings.length ≤ plan.tiles.count .kitchenFloor := by
  rw [← honFloor.count_kitchenFloor_lay hplan]
  exact Nat.le_add_left _ _

end FloorPlan

/-! ## Pairing cells with dishes -/

@[simp]
theorem length_sortedDishes (vegans others : Nat) :
    (sortedDishes vegans others).length = vegans + others := by
  rw [sortedDishes, List.length_append, List.length_replicate, List.length_replicate]

@[simp]
theorem count_vegan_sortedDishes (vegans others : Nat) :
    (sortedDishes vegans others).count .vegan = vegans := by
  simp [sortedDishes, List.count_replicate]

@[simp]
theorem count_nonVegetarian_sortedDishes (vegans others : Nat) :
    (sortedDishes vegans others).count .nonVegetarian = others := by
  simp [sortedDishes, List.count_replicate]

/-- A field that holds the first part of a pair gives the first list back, as
far as there are pairs. -/
private theorem map_zipWith_eq_take {α β γ : Type} {pair : α → β → γ} {first : γ → α}
    (hfirst : ∀ left right, first (pair left right) = left) (lefts : List α)
    (rights : List β) :
    (List.zipWith pair lefts rights).map first = lefts.take rights.length := by
  induction lefts generalizing rights with
  | nil => rw [List.zipWith_nil_left, List.map_nil, List.take_nil]
  | cons left lefts ih =>
      cases rights with
      | nil => rfl
      | cons right rights =>
          rw [List.zipWith_cons_cons, List.map_cons, hfirst, ih, List.length_cons,
            List.take_succ_cons]

namespace Service

/-- The round of service that pairs cells with dishes in order. -/
def paired (plan : FloorPlan) (cells : List Position) (dishes : List Diet) : Service where
  plan := plan.lay (List.zipWith Serving.mk cells dishes)
  servings := List.zipWith Serving.mk cells dishes
  unplaced := dishes.drop cells.length

variable (plan : FloorPlan) (cells : List Position) (dishes : List Diet)

theorem positions_paired :
    (paired plan cells dishes).servings.map Serving.position =
      cells.take dishes.length :=
  map_zipWith_eq_take (fun _ _ => rfl) cells dishes

theorem dishes_paired :
    (paired plan cells dishes).servings.map Serving.dish = dishes.take cells.length := by
  rw [paired, List.zipWith_comm]
  exact map_zipWith_eq_take (fun _ _ => rfl) dishes cells

/-- Pairing loses no dish: the placed ones and the others are all of them. -/
theorem dishes_append_unplaced_paired :
    (paired plan cells dishes).servings.map Serving.dish ++
      (paired plan cells dishes).unplaced = dishes := by
  rw [dishes_paired]
  exact List.take_append_drop cells.length dishes

end Service

theorem FloorPlan.WellFormed.arrange_eq {plan : FloorPlan} (hplan : plan.WellFormed)
    (cells : List Position) (dishes : List Diet) :
    arrange plan cells dishes = .ok (Service.paired plan cells dishes) := by
  rw [arrange, hplan.serve_eq]
  rfl

/-! ## Drawing the orders -/

/-- A round of service for given swaps of the cells and of the dishes. -/
def serveWith (plan : FloorPlan) (cells : List Position) (vegans others : Nat)
    (cellSwaps dishSwaps : List Nat) : Attempt Fault Service :=
  serveInOrder plan (shuffled cellSwaps cells) (shuffled dishSwaps (sortedDishes vegans others))

theorem FloorPlan.WellFormed.serveWith_eq {plan : FloorPlan} (hplan : plan.WellFormed)
    (cells : List Position) (vegans others : Nat) (cellSwaps dishSwaps : List Nat) :
    serveWith plan cells vegans others cellSwaps dishSwaps =
      let service := Service.paired plan (shuffled cellSwaps cells)
        (shuffled dishSwaps (sortedDishes vegans others))
      ⟨shortageNotices cells.length (vegans + others) ++ service.unplacedNotices,
        .ok service⟩ := by
  rw [serveWith, serveInOrder, hplan.arrange_eq, length_shuffled, length_shuffled,
    length_sortedDishes]

variable {σ : Type} {source : Source σ} {vegans others : Nat}

/-- Dishes that memory has room for are shuffled. -/
theorem drawDishes_of_lt (hfits : vegans + others < memoryLimit) :
    drawDishes source vegans others = do
      let dishSwaps ← source.drawSwaps (vegans + others)
      return .ok (shuffled dishSwaps (sortedDishes vegans others)) := by
  have hbytes : Diet.bytes * (vegans + others) < memoryLimit := by rwa [Diet.bytes, Nat.one_mul]
  have hreserve : (checkedAdd vegans others >>= reserve Diet.bytes) = .ok () := by
    rw [checkedAdd_of_lt (Nat.lt_trans hfits memoryLimit_lt_wordCount)]
    exact reserve_of_lt hbytes
  simp only [drawDishes, hreserve, Source.shuffle, length_sortedDishes, bind_assoc, pure_bind]

theorem drawDishes_of_le (hsum : vegans + others < wordCount)
    (hlarge : memoryLimit ≤ vegans + others) :
    drawDishes source vegans others = pure (.error .capacityTooLarge) := by
  have hbytes : memoryLimit ≤ Diet.bytes * (vegans + others) := by rwa [Diet.bytes, Nat.one_mul]
  have hreserve : (checkedAdd vegans others >>= reserve Diet.bytes) = .error .capacityTooLarge := by
    rw [checkedAdd_of_lt hsum]
    exact reserve_of_le hbytes
  simp only [drawDishes, hreserve]

/-- A round of service draws the swaps of the cells, then those of the dishes, and
is a function of the two. -/
theorem serve_of_lt (plan : FloorPlan) (cells : List Position)
    (hfits : vegans + others < memoryLimit) :
    serve source plan cells vegans others = do
      let cellSwaps ← source.drawSwaps cells.length
      let dishSwaps ← source.drawSwaps (vegans + others)
      return serveWith plan cells vegans others cellSwaps dishSwaps := by
  rw [serve, checkedAdd_of_lt (Nat.lt_trans hfits memoryLimit_lt_wordCount)]
  simp only [Source.shuffle, drawDishes_of_lt hfits, bind_assoc, pure_bind, serveWith]

/-- A round of service for more dishes than memory has room for: it stops before
the cells are shuffled if the number is no word, and behind them otherwise. -/
def refuseService (source : Source σ) (cells dishes : Nat) : Draw σ (Attempt Fault Service) :=
  if wordCount ≤ dishes then pure ⟨[], .error .sumTooLarge⟩
  else do
    let _ ← source.drawSwaps cells
    return ⟨shortageNotices cells dishes, .error .capacityTooLarge⟩

theorem serve_of_le (plan : FloorPlan) (cells : List Position)
    (hlarge : memoryLimit ≤ vegans + others) :
    serve source plan cells vegans others =
      refuseService source cells.length (vegans + others) := by
  by_cases hsum : wordCount ≤ vegans + others
  · rw [serve, checkedAdd_of_le hsum, refuseService, if_pos hsum]
  · have hword := Nat.lt_of_not_le hsum
    rw [serve, checkedAdd_of_lt hword, refuseService, if_neg hsum]
    simp only [Source.shuffle, drawDishes_of_le hword hlarge, bind_assoc, pure_bind]

theorem exists_fault_of_refuseService {cells dishes : Nat} {state rest : σ}
    {attempt : Attempt Fault Service}
    (hrefuse : refuseService source cells dishes state = some (attempt, rest)) :
    ∃ notices fault, attempt = ⟨notices, .error fault⟩ := by
  rw [refuseService] at hrefuse
  split at hrefuse
  · obtain ⟨rfl, -⟩ := Prod.mk.inj (Option.some.inj hrefuse)
    exact ⟨_, _, rfl⟩
  · rw [Draw.bind_apply, Option.bind_eq_some_iff] at hrefuse
    obtain ⟨drawn, -, hpure⟩ := hrefuse
    obtain ⟨rfl, -⟩ := Prod.mk.inj (Option.some.inj hpure)
    exact ⟨_, _, rfl⟩

/-- On a well-formed plan a round of service is its swaps, and nothing can stop it. -/
theorem FloorPlan.WellFormed.serve_eq_drawSwaps {plan : FloorPlan} (hplan : plan.WellFormed)
    (source : Source σ) (cells : List Position) (hfits : vegans + others < memoryLimit) :
    DishPlanner.serve source plan cells vegans others = do
      let cellSwaps ← source.drawSwaps cells.length
      let dishSwaps ← source.drawSwaps (vegans + others)
      let service := Service.paired plan (shuffled cellSwaps cells)
        (shuffled dishSwaps (sortedDishes vegans others))
      return ⟨shortageNotices cells.length (vegans + others) ++ service.unplacedNotices,
        .ok service⟩ := by
  rw [serve_of_lt plan cells hfits]
  simp only [hplan.serveWith_eq]

end DishPlanner

import DishPlanner.Draw.Generator
import DishPlanner.Proofs.Kitchen.Laying

/-!
# The account of a round of service

Nothing is asked of the cells here: they may repeat and lie outside the plan.
Every dish is placed or reported, the cells are served from the front of some
order of them, and of several dishes on one cell the last one is seen.  Of the
dishes no more is asked than that memory has room for them.
-/

namespace DishPlanner

variable {σ : Type} {plan : FloorPlan} {cells : List Position} {vegans others : Nat}

/-- A serving is the last one on its position if none of those behind it stands there. -/
theorem lastServing_of_not_mem {before after : List Serving} {serving : Serving}
    (hafter : serving.position ∉ after.map Serving.position) :
    lastServing (before ++ serving :: after) serving.position = some serving := by
  have hnone : (after.reverse.find? fun other => other.position = serving.position) = none :=
    lastServing_eq_none hafter
  rw [lastServing, List.reverse_append, List.reverse_cons, List.append_assoc,
    List.find?_append, hnone]
  simp

/-- What a round of service leaves of a plan, of its cells and of the dishes. -/
structure Service.Accounts (service : Service) (plan : FloorPlan) (cells : List Position)
    (vegans others : Nat) : Prop where
  /-- The placed dishes and the others are the wanted ones in some order. -/
  dishes_perm : (service.servings.map Serving.dish ++ service.unplaced).Perm
    (List.replicate vegans .vegan ++ List.replicate others .nonVegetarian)
  /-- The cells that are served come first in some order of the cells. -/
  positions_eq : ∃ order : List Position, order.Perm cells ∧
    service.servings.map Serving.position = order.take (min cells.length (vegans + others))
  isComplete_iff : service.isComplete = true ↔ vegans + others ≤ cells.length
  rows_eq : service.plan.rows = plan.rows
  columns_eq : service.plan.columns = plan.columns
  wellFormed : service.plan.WellFormed
  /-- A position inside the plan shows the last dish on it. -/
  read_last : ∀ before serving after, service.servings = before ++ serving :: after →
    serving.position ∉ after.map Serving.position → plan.Covers serving.position →
    service.plan.read serving.position = .ok (some serving.dish.dishTile)
  read_unserved : ∀ position, position ∉ service.servings.map Serving.position →
    service.plan.read position = plan.read position
  read_outside : ∀ position, ¬ plan.Covers position → service.plan.read position = .ok none

namespace Service

theorem plan_paired (plan : FloorPlan) (cells : List Position) (dishes : List Diet) :
    (paired plan cells dishes).plan = plan.lay (paired plan cells dishes).servings := rfl

theorem isComplete_paired (plan : FloorPlan) (cells : List Position) (dishes : List Diet) :
    (paired plan cells dishes).isComplete = true ↔ dishes.length ≤ cells.length := by
  rw [isComplete, paired, List.isEmpty_iff, List.drop_eq_nil_iff]

/-- Pairing any order of the cells with any order of the dishes accounts for all of them. -/
theorem accounts_paired (hplan : plan.WellFormed) {order : List Position} {dishes : List Diet}
    (horder : order.Perm cells) (hdishes : dishes.Perm (sortedDishes vegans others)) :
    (paired plan order dishes).Accounts plan cells vegans others := by
  have hlength : dishes.length = vegans + others := by
    rw [hdishes.length_eq, length_sortedDishes]
  constructor
  case dishes_perm =>
    rw [dishes_append_unplaced_paired]
    exact hdishes
  case positions_eq =>
    refine ⟨order, horder, ?_⟩
    rw [positions_paired, hlength, ← horder.length_eq, Nat.min_comm, ← List.take_eq_take_min]
  case isComplete_iff => rw [isComplete_paired, hlength, horder.length_eq]
  case rows_eq => exact plan.rows_lay _
  case columns_eq => exact plan.columns_lay _
  case wellFormed => exact hplan.lay _
  case read_last =>
    intro before serving after hservings hafter hcovers
    rw [plan_paired, (hplan.lay _).read_eq, hplan.tileAt_lay _ hcovers, hservings,
      lastServing_of_not_mem hafter]
    rfl
  case read_unserved =>
    intro position hposition
    rw [plan_paired, (hplan.lay _).read_eq, hplan.read_eq, hplan.tileAt_lay_of_not_mem hposition]
  case read_outside =>
    intro position houtside
    rw [plan_paired, (hplan.lay _).read_eq, FloorPlan.tileAt,
      if_neg fun hcovers => houtside (FloorPlan.covers_lay.mp hcovers)]

end Service

/-- Whatever the cells are, a round of service that ends has met no fault and accounts
for everything; it ends when its two shuffles do, and leaves the source behind them. -/
theorem serve_accounts (source : Source σ) (hplan : plan.WellFormed) (cells : List Position)
    (hfits : vegans + others < memoryLimit) (state : σ) :
    (∀ attempt rest, serve source plan cells vegans others state = some (attempt, rest) →
        ∃ service, attempt.result = .ok service ∧
          service.Accounts plan cells vegans others) ∧
      ∀ cellSwaps middle dishSwaps rest,
        source.drawSwaps cells.length state = some (cellSwaps, middle) →
        source.drawSwaps (vegans + others) middle = some (dishSwaps, rest) →
        ∃ attempt, serve source plan cells vegans others state = some (attempt, rest) := by
  rw [hplan.serve_eq_drawSwaps source cells hfits]
  constructor
  · intro attempt rest hserve
    rw [Draw.bind_apply, Option.bind_eq_some_iff] at hserve
    obtain ⟨⟨cellSwaps, middle⟩, hcells, hserve⟩ := hserve
    rw [Draw.bind_apply, Option.bind_eq_some_iff] at hserve
    obtain ⟨⟨dishSwaps, last⟩, hdishes, hserve⟩ := hserve
    obtain ⟨rfl, rfl⟩ := Prod.mk.inj (Option.some.inj hserve)
    exact ⟨_, rfl, Service.accounts_paired hplan (shuffled_perm _ _) (shuffled_perm _ _)⟩
  · intro cellSwaps middle dishSwaps rest hcells hdishes
    rw [Draw.bind_apply, hcells, Option.bind_some, Draw.bind_apply, hdishes, Option.bind_some]
    exact ⟨_, rfl⟩

/-- A bench of two cells. -/
def bench : FloorPlan := ⟨1, 2, #[.kitchenFloor, .wall]⟩

/-- The same cell twice, and one outside the bench. -/
def benchCells : List Position := [⟨0, 0⟩, ⟨7, 7⟩, ⟨0, 0⟩]

/-- Two dishes come to stand on one cell, the third stands nowhere on the bench, and the
fourth finds no cell. -/
theorem serve_accounts_bench :
    bench.WellFormed ∧ 2 + 2 < memoryLimit ∧
      ∃ attempt service,
        serve Generator.source bench benchCells 2 2 (.scripted [0x60000000]) =
            some (attempt, .scripted []) ∧
          attempt.result = .ok service ∧ service.Accounts bench benchCells 2 2 ∧
          service.isComplete = false := by
  have hplan : bench.WellFormed := ⟨by decide, by decide⟩
  have hfits : 2 + 2 < memoryLimit := by decide
  have hcells : Generator.source.drawSwaps benchCells.length (.scripted [0x60000000]) =
      some ([1, 0], .scripted []) := rfl
  have hdishes : Generator.source.drawSwaps (2 + 2) (.scripted []) =
      some ([0, 0, 0], .scripted []) := rfl
  obtain ⟨haccounts, hends⟩ :=
    serve_accounts Generator.source hplan benchCells hfits (.scripted [0x60000000])
  obtain ⟨attempt, hserve⟩ := hends _ _ _ _ hcells hdishes
  obtain ⟨service, hresult, haccounts⟩ := haccounts _ _ hserve
  refine ⟨hplan, hfits, attempt, service, hserve, hresult, haccounts, ?_⟩
  rw [Bool.eq_false_iff, ne_eq, haccounts.isComplete_iff]
  decide

/-- Half a word of dishes is refused before any of them is placed or reported. -/
theorem serve_bench_overfull :
    bench.WellFormed ∧ memoryLimit + 0 < wordCount ∧
      serve Generator.source bench [] memoryLimit 0 (.scripted []) =
        some (⟨[.shortage 0 memoryLimit], .error .capacityTooLarge⟩, .scripted []) ∧
      ∀ attempt rest,
        serve Generator.source bench [] memoryLimit 0 (.scripted []) = some (attempt, rest) →
        ¬ ∃ service, attempt.result = .ok service := by
  have hserve : serve Generator.source bench [] memoryLimit 0 (.scripted []) =
      some (⟨[.shortage 0 memoryLimit], .error .capacityTooLarge⟩, .scripted []) := by
    rw [serve_of_le bench [] (Nat.le_refl memoryLimit)]
    rfl
  refine ⟨⟨by decide, by decide⟩, by decide, hserve, ?_⟩
  rintro attempt rest hattempt ⟨service, hservice⟩
  rw [hserve] at hattempt
  obtain ⟨rfl, -⟩ := Prod.mk.inj (Option.some.inj hattempt)
  cases hservice

end DishPlanner

import Mathlib.Algebra.BigOperators.Ring.Finset
import Mathlib.Data.Nat.Factorial.Basic
import DishPlanner.Proofs.Draw.Shuffle

/-!
# How many swaps lead to an order

The partner of every place is drawn from the places that are not behind it, so
the swaps of a list are a finite set, `swapChoices`.  The first swap decides
which item comes last and leaves a shorter list to shuffle, from which the
number of swaps that lead to an order follows by induction: it is the number of
ways to tell equal items apart, the same for every order of the items.
-/

namespace DishPlanner

open scoped Nat

variable {α : Type}

/-- The swaps that can be drawn for a list of a length. -/
def swapChoices : Nat → Finset (List Nat)
  | 0 => {[]}
  | 1 => {[]}
  | place + 2 =>
      (Finset.range (place + 2)).biUnion fun partner =>
        (swapChoices (place + 1)).map ⟨List.cons partner, List.cons_injective⟩

theorem mem_swapChoices_succ {place : Nat} {partners : List Nat} :
    partners ∈ swapChoices (place + 2) ↔
      ∃ partner < place + 2, ∃ later ∈ swapChoices (place + 1),
        partner :: later = partners := by
  simp [swapChoices]

/-- There is one partner for every place from the last down to the second, and
no other condition than that it is not behind the place. -/
theorem mem_swapChoices {length : Nat} {partners : List Nat} :
    partners ∈ swapChoices length ↔
      partners.length = length - 1 ∧
        ∀ step partner, partners[step]? = some partner → partner < length - step := by
  induction length using swapChoices.induct generalizing partners with
  | case1 => simp +contextual [swapChoices]
  | case2 => simp +contextual [swapChoices]
  | case3 place ih =>
      rw [mem_swapChoices_succ]
      constructor
      · rintro ⟨first, hfirst, later, hlater, rfl⟩
        obtain ⟨hlength, hbounds⟩ := ih.mp hlater
        refine ⟨by rw [List.length_cons]; omega, fun step partner hpartner => ?_⟩
        cases step with
        | zero =>
            obtain rfl := Option.some.inj hpartner
            exact hfirst
        | succ step =>
            have := hbounds step partner hpartner
            omega
      · rintro ⟨hlength, hbounds⟩
        obtain ⟨first, later, rfl⟩ := List.exists_cons_of_length_eq_add_one hlength
        refine ⟨first, hbounds 0 first rfl, later, ih.mpr ⟨?_, fun step partner hpartner => ?_⟩,
          rfl⟩
        · simpa using hlength
        · have := hbounds (step + 1) partner hpartner
          omega

/-- Choices are counted by their first partner. -/
theorem card_filter_swapChoices (place : Nat) (keep : List Nat → Prop) [DecidablePred keep] :
    ((swapChoices (place + 2)).filter keep).card =
      ∑ partner ∈ Finset.range (place + 2),
        ((swapChoices (place + 1)).filter fun later => keep (partner :: later)).card := by
  rw [swapChoices, Finset.filter_biUnion, Finset.card_biUnion]
  · apply Finset.sum_congr rfl
    intro partner _
    rw [Finset.filter_map, Finset.card_map]
    rfl
  · intro partner _ other _ hdifferent
    apply Finset.disjoint_left.mpr
    intro partners hpartner hother
    simp only [Finset.mem_filter, Finset.mem_map, Function.Embedding.coeFn_mk] at hpartner hother
    obtain ⟨⟨later, -, rfl⟩, -⟩ := hpartner
    obtain ⟨⟨_, -, hsame⟩, -⟩ := hother
    exact hdifferent (List.cons.inj hsame).1.symm

/-! ## Drawn swaps -/

namespace Source

variable {σ : Type} {source : Source σ}

theorem word_lt_count (size : WordSize) (state : σ) :
    (source.word size state).1 < size.count := by
  cases size with
  | short => exact UInt32.toNat_lt _
  | long => exact UInt64.toNat_lt _

theorem belowWithin_lt {size : WordSize} {bound trials drawn : Nat} {state rest : σ}
    (hbound : 0 < bound)
    (hdraw : source.belowWithin size bound trials state = some (drawn, rest)) :
    drawn < bound := by
  induction trials generalizing state with
  | zero => cases hdraw
  | succ trials ih =>
      simp only [belowWithin] at hdraw
      split at hdraw
      · obtain ⟨rfl, -⟩ := Prod.mk.inj (Option.some.inj hdraw)
        apply Nat.div_lt_of_lt_mul
        exact Nat.mul_lt_mul_of_pos_right (word_lt_count size state) hbound
      · exact ih hdraw

theorem exists_of_drawSwapsFrom {length : Nat} {drawn partners : List Nat} {state rest : σ}
    (hdraws : source.drawSwapsFrom length drawn state = some (partners, rest)) :
    ∃ later ∈ swapChoices length, partners = drawn.reverse ++ later := by
  induction length using swapChoices.induct generalizing drawn state with
  | case1 =>
      obtain ⟨rfl, -⟩ := Prod.mk.inj (Option.some.inj hdraws)
      exact ⟨[], Finset.mem_singleton_self _, (List.append_nil _).symm⟩
  | case2 =>
      obtain ⟨rfl, -⟩ := Prod.mk.inj (Option.some.inj hdraws)
      exact ⟨[], Finset.mem_singleton_self _, (List.append_nil _).symm⟩
  | case3 place ih =>
      rw [drawSwapsFrom, Draw.bind_apply, Option.bind_eq_some_iff] at hdraws
      obtain ⟨⟨partner, middle⟩, hpartner, hlater⟩ := hdraws
      obtain ⟨later, hmem, rfl⟩ := ih hlater
      refine ⟨partner :: later, mem_swapChoices_succ.mpr ⟨partner, ?_, later, hmem, rfl⟩, ?_⟩
      · exact belowWithin_lt (Nat.succ_pos _) hpartner
      · rw [List.reverse_cons, List.append_assoc, List.singleton_append]

/-- Drawn swaps are among those that can be drawn. -/
theorem mem_swapChoices_of_drawSwaps {length : Nat} {partners : List Nat} {state rest : σ}
    (hdraws : source.drawSwaps length state = some (partners, rest)) :
    partners ∈ swapChoices length := by
  obtain ⟨later, hmem, rfl⟩ := exists_of_drawSwapsFrom hdraws
  exact hmem

end Source

/-! ## The first swap -/

theorem shuffled_nil (items : List α) : shuffled [] items = items := rfl

theorem swapIfInBounds_push {items : Array α} {left right : Nat} (hleft : left < items.size)
    (hright : right < items.size) (last : α) :
    (items.push last).swapIfInBounds left right =
      (items.swapIfInBounds left right).push last := by
  apply Array.ext
  · simp
  · intro place hplace _
    simp only [Array.size_swapIfInBounds, Array.size_push] at hplace
    simp only [Array.getElem_swapIfInBounds, Array.getElem_push, Array.size_push,
      Array.size_swapIfInBounds, hleft, hright]
    grind

/-- Swaps below a place leave the items behind it alone. -/
theorem swapDown_push {place : Nat} {partners : List Nat} {items : Array α}
    (hpartners : partners ∈ swapChoices (place + 1)) (hplace : place < items.size) (last : α) :
    swapDown place partners (items.push last) =
      (swapDown place partners items).push last := by
  induction place generalizing partners items with
  | zero =>
      obtain rfl := Finset.mem_singleton.mp hpartners
      rfl
  | succ place ih =>
      obtain ⟨partner, hpartner, later, hlater, rfl⟩ := mem_swapChoices_succ.mp hpartners
      rw [swapDown, swapDown, swapIfInBounds_push hplace (by omega), Nat.add_sub_cancel]
      exact ih hlater (by rw [Array.size_swapIfInBounds]; omega)

theorem push_pop_swapIfInBounds {items : Array α} {place partner : Nat}
    (hsize : items.size = place + 1) (hpartner : partner < items.size) :
    (items.swapIfInBounds place partner).pop.push items[partner] =
      items.swapIfInBounds place partner := by
  apply Array.ext
  · simp [hsize]
  · intro index hindex _
    simp only [Array.size_push, Array.size_pop, Array.size_swapIfInBounds] at hindex
    simp only [Array.getElem_push, Array.getElem_pop, Array.getElem_swapIfInBounds, Array.size_pop,
      Array.size_swapIfInBounds, hsize]
    grind

/-- The first swap moves its partner to the end, where it stays; the later swaps
shuffle the other items. -/
theorem exists_shuffled_cons {items : List α} {place partner : Nat}
    (hlength : items.length = place + 2) (hpartner : partner < items.length) :
    ∃ others : List α, others.length = place + 1 ∧
      (others ++ [items[partner]]).Perm items ∧
        ∀ later ∈ swapChoices (place + 1),
          shuffled (partner :: later) items = shuffled later others ++ [items[partner]] := by
  obtain ⟨others, hothers⟩ : ∃ others : Array α,
      others.push items[partner] = items.toArray.swapIfInBounds (place + 1) partner :=
    ⟨_, push_pop_swapIfInBounds hlength hpartner⟩
  have hsize : others.size = place + 1 := by
    have hsizes := congrArg Array.size hothers
    rw [Array.size_push, Array.size_swapIfInBounds] at hsizes
    exact Nat.succ.inj (hsizes.trans hlength)
  refine ⟨others.toList, by rw [Array.length_toList, hsize], ?_, ?_⟩
  · rw [← Array.toList_push, hothers]
    exact (swapDown_perm (place + 1) [partner] items.toArray).toList
  · intro later hlater
    have hmoved := swapDown_push hlater (by omega : place < others.size) items[partner]
    rw [hothers] at hmoved
    rw [shuffled, shuffled, hlength, Array.length_toList, hsize, Array.toArray_toList,
      ← Array.toList_push]
    exact congrArg Array.toList hmoved

/-! ## Counting -/

/-- In how many ways equal items of a list can be told apart. -/
def repeats [DecidableEq α] (items : List α) : Nat :=
  ∏ item ∈ items.toFinset, (items.count item)!

section

variable [DecidableEq α]

theorem repeats_eq_prod {items : List α} {kinds : Finset α} (hkinds : items.toFinset ⊆ kinds) :
    repeats items = ∏ item ∈ kinds, (items.count item)! := by
  apply Finset.prod_subset hkinds
  intro item _ hitem
  rw [List.count_eq_zero.mpr fun h => hitem (List.mem_toFinset.mpr h), Nat.factorial_zero]

theorem repeats_append_singleton (items : List α) (last : α) :
    repeats (items ++ [last]) = (items.count last + 1) * repeats items := by
  have hkinds : (items ++ [last]).toFinset ⊆ insert last items.toFinset := by
    intro item
    simp
  have hlast := Finset.mem_insert_self last items.toFinset
  rw [repeats_eq_prod hkinds, repeats_eq_prod (Finset.subset_insert last items.toFinset),
    ← Finset.mul_prod_erase _ _ hlast, ← Finset.mul_prod_erase _ _ hlast, ← mul_assoc]
  congr 1
  · rw [List.count_append, List.count_singleton_self, Nat.factorial_succ]
  · apply Finset.prod_congr rfl
    intro item hitem
    rw [List.count_append, List.count_singleton, if_neg, Nat.add_zero]
    simpa using (Finset.ne_of_mem_erase hitem).symm

/-- Items that are told apart, followed by an item again and again. -/
theorem repeats_append_replicate {items : List α} {again : α} (hitems : items.Nodup)
    (hagain : again ∉ items) (times : Nat) :
    repeats (items ++ List.replicate times again) = times ! := by
  rw [repeats, Finset.prod_eq_single again]
  · rw [List.count_append, List.count_eq_zero.mpr hagain, List.count_replicate_self, Nat.zero_add]
  · intro item _ hitem
    rw [List.count_append, List.count_eq_zero.mpr fun h => hitem (List.eq_of_mem_replicate h),
      Nat.add_zero, Nat.factorial_eq_one]
    exact List.nodup_iff_count_le_one.mp hitems item
  · intro habsent
    rw [List.count_eq_zero.mpr fun h => habsent (List.mem_toFinset.mpr h), Nat.factorial_zero]

/-- The places of an item are as many as its occurrences. -/
theorem sum_places_eq_count (items : List α) (item : α) :
    (∑ place ∈ Finset.range items.length, if items[place]? = some item then 1 else 0) =
      items.count item := by
  induction items with
  | nil => rfl
  | cons first items ih =>
      rw [List.length_cons, Finset.sum_range_succ', List.count_cons, ← ih]
      simp

/-- After a first swap, an order is reached if its last item was moved to the end
and the later swaps reach the rest of it. -/
theorem card_shuffles_cons {items order : List α} {place partner : Nat} {last : α}
    (hperm : (order ++ [last]).Perm items) (hlength : items.length = place + 2)
    (hpartner : partner < items.length)
    (hshorter : ∀ others : List α, order.Perm others → others.length = place + 1 →
      ((swapChoices (place + 1)).filter fun later => shuffled later others = order).card =
        repeats order) :
    ((swapChoices (place + 1)).filter fun later =>
        shuffled (partner :: later) items = order ++ [last]).card =
      (if items[partner]? = some last then 1 else 0) * repeats order := by
  obtain ⟨others, hothers, hmoved, hshuffled⟩ := exists_shuffled_cons hlength hpartner
  have hfilter : ((swapChoices (place + 1)).filter fun later =>
        shuffled (partner :: later) items = order ++ [last]) =
      (swapChoices (place + 1)).filter fun later =>
        shuffled later others = order ∧ items[partner] = last := by
    apply Finset.filter_congr
    intro later hlater
    rw [hshuffled later hlater, List.append_singleton_inj]
  rw [hfilter, List.getElem?_eq_getElem hpartner]
  by_cases hlast : items[partner] = last
  · subst hlast
    have hrest : order.Perm others :=
      (List.perm_append_right_iff _).mp (hperm.trans hmoved.symm)
    simp [hshorter others hrest hothers]
  · simp [hlast]

/-- An order of the items is reached by as many choices of swaps as there are
ways to tell equal items apart. -/
theorem card_shuffles {items order : List α} (hperm : order.Perm items) :
    ((swapChoices items.length).filter fun partners => shuffled partners items = order).card =
      repeats order := by
  -- The last item of the order is moved first, and the rest is a shorter shuffle.
  induction hlength : items.length using swapChoices.induct generalizing items order with
  | case1 =>
      obtain rfl := List.eq_nil_of_length_eq_zero hlength
      rw [List.perm_nil.mp hperm]
      rfl
  | case2 =>
      obtain ⟨item, rfl⟩ := List.length_eq_one_iff.mp hlength
      rw [List.perm_singleton.mp hperm]
      simp [swapChoices, Finset.filter_singleton, shuffled_nil, repeats]
  | case3 place ih =>
      have hlength : items.length = place + 2 := hlength
      rcases List.eq_nil_or_concat' order with rfl | ⟨order, last, rfl⟩
      · rw [← hperm.length_eq, List.length_nil] at hlength
        omega
      · have hfirst : ∀ partner ∈ Finset.range (place + 2),
            ((swapChoices (place + 1)).filter fun later =>
                shuffled (partner :: later) items = order ++ [last]).card =
              (if items[partner]? = some last then 1 else 0) * repeats order := by
          intro partner hpartner
          apply card_shuffles_cons hperm hlength (hlength ▸ Finset.mem_range.mp hpartner)
          intro others hrest hothers
          exact ih hrest hothers
        calc
          ((swapChoices (place + 2)).filter fun partners =>
                shuffled partners items = order ++ [last]).card =
              ∑ partner ∈ Finset.range (place + 2),
                ((swapChoices (place + 1)).filter fun later =>
                  shuffled (partner :: later) items = order ++ [last]).card :=
            card_filter_swapChoices place _
          _ = (∑ partner ∈ Finset.range (place + 2),
                if items[partner]? = some last then 1 else 0) * repeats order := by
            rw [Finset.sum_congr rfl hfirst, Finset.sum_mul]
          _ = items.count last * repeats order := by
            rw [← hlength, sum_places_eq_count]
          _ = repeats (order ++ [last]) := by
            rw [← hperm.count_eq, repeats_append_singleton, List.count_append,
              List.count_singleton_self]

/-! ## Orders that are fixed at their start only

When only the first items of an order matter, the others are all alike: marking
them so turns the question into one about whole orders. -/

/-- The item if it was chosen, and one and the same mark if not. -/
def mark (chosen : List α) (item : α) : Option α := if item ∈ chosen then some item else none

theorem eq_of_map_mark {chosen order named : List α}
    (hmarks : order.map (mark chosen) = named.map some) : order = named := by
  induction order generalizing named with
  | nil => exact (List.map_eq_nil_iff.mp hmarks.symm).symm
  | cons item order ih =>
      obtain ⟨first, named, rfl⟩ : ∃ first later, named = first :: later := by
        cases named with
        | nil => cases hmarks
        | cons first later => exact ⟨first, later, rfl⟩
      rw [List.map_cons, List.map_cons, List.cons.injEq, mark] at hmarks
      obtain ⟨hitem, hlater⟩ := hmarks
      by_cases hchosen : item ∈ chosen
      · rw [if_pos hchosen, Option.some.injEq] at hitem
        rw [hitem, ih hlater]
      · rw [if_neg hchosen] at hitem
        cases hitem

theorem take_eq_iff_map_mark {chosen order : List α} (horder : order.Nodup) :
    order.take chosen.length = chosen ↔
      order.map (mark chosen) =
        chosen.map some ++ List.replicate (order.length - chosen.length) none := by
  constructor
  · intro htake
    have hsplit : chosen ++ order.drop chosen.length = order := by
      nth_rewrite 1 [← htake]
      exact List.take_append_drop _ _
    have hapart : List.Disjoint chosen (order.drop chosen.length) := by
      rw [← hsplit] at horder
      exact List.disjoint_of_nodup_append horder
    have hfirst : chosen.map (mark chosen) = chosen.map some :=
      List.map_congr_left fun item hitem => if_pos hitem
    have hothers : (order.drop chosen.length).map (mark chosen) =
        List.replicate (order.length - chosen.length) none := by
      rw [← List.length_drop]
      exact List.map_eq_replicate_iff.mpr fun item hitem => if_neg fun h => hapart h hitem
    rw [← hfirst, ← hothers, ← List.map_append, hsplit]
  · intro hmarks
    have hstart : (order.take chosen.length).map (mark chosen) = chosen.map some := by
      rw [List.map_take, hmarks, List.take_left' (List.length_map _)]
    exact eq_of_map_mark hstart

/-- The start of an order of different items is reached by one choice of swaps
for every order of the items that it leaves out. -/
theorem card_shuffles_take {items chosen : List α} (hitems : items.Nodup)
    (hchosen : chosen.Nodup) (hsubset : chosen ⊆ items) :
    ((swapChoices items.length).filter fun partners =>
        (shuffled partners items).take chosen.length = chosen).card =
      (items.length - chosen.length)! := by
  obtain ⟨left, hleft⟩ : ∃ left, (chosen ++ left).Perm items :=
    ⟨_, List.subperm_append_diff_self_of_count_le
      (List.subperm_ext_iff.mp (hchosen.subperm hsubset))⟩
  have hmarks : (chosen.map some ++ List.replicate (items.length - chosen.length) none).Perm
      (items.map (mark chosen)) := by
    have hstart : (chosen ++ left).take chosen.length = chosen := List.take_left' rfl
    have horder := (take_eq_iff_map_mark (hleft.nodup_iff.mpr hitems)).mp hstart
    rw [hleft.length_eq] at horder
    rw [← horder]
    exact hleft.map _
  have hfilter : ((swapChoices items.length).filter fun partners =>
        (shuffled partners items).take chosen.length = chosen) =
      (swapChoices (items.map (mark chosen)).length).filter fun partners =>
        shuffled partners (items.map (mark chosen)) =
          chosen.map some ++ List.replicate (items.length - chosen.length) none := by
    rw [List.length_map]
    apply Finset.filter_congr
    intro partners _
    rw [take_eq_iff_map_mark ((shuffled_perm _ _).nodup_iff.mpr hitems), map_shuffled,
      length_shuffled]
  have hnone : none ∉ chosen.map some := by simp
  rw [hfilter, card_shuffles hmarks,
    repeats_append_replicate (hchosen.map (Option.some_injective α)) hnone]

end

end DishPlanner

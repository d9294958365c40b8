import Mathlib.Data.List.Sort
import DishPlanner.Floor.Zone

/-!
# Reading order

Reading order is a strict total order on positions, and every scan of a zone
follows it.  A list of positions in strict reading order is determined by its
members, so two scans are compared by what they find and never step by step.
-/

namespace DishPlanner

namespace Position

variable {first second third : Position}

theorem lt_irrefl (position : Position) : ¬ position < position := by
  intro hbefore
  rw [lt_def] at hbefore
  omega

theorem lt_trans (hfirst : first < second) (hsecond : second < third) :
    first < third := by
  rw [lt_def] at hfirst hsecond ⊢
  omega

theorem le_refl (position : Position) : position ≤ position := .inr ⟨rfl, Nat.le_refl _⟩

theorem le_of_lt (hlt : first < second) : first ≤ second :=
  hlt.imp_right fun h => ⟨h.1, Nat.le_of_lt h.2⟩

theorem le_trans (hfirst : first ≤ second) (hsecond : second ≤ third) :
    first ≤ third := by
  rw [le_def] at hfirst hsecond ⊢
  omega

theorem le_total (first second : Position) : first ≤ second ∨ second ≤ first := by
  rw [le_def, le_def]
  omega

theorem lt_of_le_of_ne (hle : first ≤ second) (hne : first ≠ second) :
    first < second := by
  rw [ne_eq, Position.ext_iff] at hne
  rw [le_def] at hle
  rw [lt_def]
  omega

theorem lt_of_lt_of_le (hfirst : first < second) (hsecond : second ≤ third) :
    first < third := by
  rw [le_def] at hsecond
  rw [lt_def] at hfirst ⊢
  omega

instance : Std.Irrefl (α := Position) (· < ·) := ⟨lt_irrefl⟩

instance : Std.Antisymm (α := Position) (· < ·) where
  antisymm _ _ hleft hright := (lt_irrefl _ (lt_trans hleft hright)).elim

theorem sort_perm (positions : List Position) : (sort positions).Perm positions :=
  List.mergeSort_perm positions _

@[simp]
theorem mem_sort {positions : List Position} {position : Position} :
    position ∈ sort positions ↔ position ∈ positions :=
  (sort_perm positions).mem_iff

theorem pairwise_le_sort (positions : List Position) :
    (sort positions).Pairwise (· ≤ ·) := by
  have hsorted : (sort positions).Pairwise fun left right => decide (left ≤ right) := by
    apply List.pairwise_mergeSort
    · intro first second third hfirst hsecond
      rw [decide_eq_true_eq] at hfirst hsecond ⊢
      exact le_trans hfirst hsecond
    · intro first second
      rw [Bool.or_eq_true, decide_eq_true_eq, decide_eq_true_eq]
      exact le_total first second
  exact hsorted.imp of_decide_eq_true

/-- Sorting positions without repetition leaves no two of them equal, so the
order is strict. -/
theorem pairwise_lt_sort {positions : List Position} (hnodup : positions.Nodup) :
    (sort positions).Pairwise (· < ·) := by
  have hdistinct : (sort positions).Pairwise (· ≠ ·) :=
    (sort_perm positions).nodup_iff.mpr hnodup
  exact ((pairwise_le_sort positions).and hdistinct).imp fun h => lt_of_le_of_ne h.1 h.2

theorem eraseRepsBy_loop_eq (first : Position) (rest before : List Position) :
    List.eraseRepsBy.loop (· == ·) first rest before =
      before.reverse ++ (first :: rest).eraseReps := by
  induction rest generalizing first before with
  | nil => simp [List.eraseReps, List.eraseRepsBy, List.eraseRepsBy.loop]
  | cons second rest ih =>
      rw [List.eraseReps, List.eraseRepsBy, List.eraseRepsBy.loop, List.eraseRepsBy.loop]
      split
      · rw [ih, ih]
        simp
      · rw [ih, ih]
        simp

theorem eraseReps_cons_cons (first second : Position) (rest : List Position) :
    (first :: second :: rest).eraseReps =
      if first = second then (first :: rest).eraseReps
      else first :: (second :: rest).eraseReps := by
  rw [List.eraseReps, List.eraseRepsBy, List.eraseRepsBy.loop]
  by_cases hsame : first = second
  · simp [hsame, eraseRepsBy_loop_eq]
  · simp [hsame, beq_eq_false_iff_ne.mpr hsame, eraseRepsBy_loop_eq]

@[simp]
theorem mem_eraseReps {positions : List Position} {position : Position} :
    position ∈ positions.eraseReps ↔ position ∈ positions := by
  induction positions with
  | nil => rfl
  | cons first rest ih =>
      cases rest with
      | nil => rfl
      | cons second rest =>
          rw [eraseReps_cons_cons]
          by_cases hsame : first = second
          · subst hsame
            rw [if_pos rfl, ih]
            simp
          · rw [if_neg hsame, List.mem_cons, ih]
            exact List.mem_cons.symm

/-- In a sorted list equal positions are neighbours, so none is left twice. -/
theorem pairwise_lt_eraseReps {positions : List Position}
    (hsorted : positions.Pairwise (· ≤ ·)) : positions.eraseReps.Pairwise (· < ·) := by
  induction positions with
  | nil => exact .nil
  | cons first rest ih =>
      obtain ⟨hfirst, hrest⟩ := List.pairwise_cons.mp hsorted
      cases rest with
      | nil => exact List.pairwise_singleton _ _
      | cons second rest =>
          rw [eraseReps_cons_cons]
          by_cases hsame : first = second
          · subst hsame
            rw [if_pos rfl]
            exact ih hrest
          · rw [if_neg hsame]
            refine List.pairwise_cons.mpr ⟨fun position hposition => ?_, ih hrest⟩
            have hsecond := hfirst second List.mem_cons_self
            -- Everything behind the second position is at least that far.
            rcases List.mem_cons.mp (mem_eraseReps.mp hposition) with rfl | hlater
            · exact lt_of_le_of_ne hsecond hsame
            · have hbehind := (List.pairwise_cons.mp hrest).1 position hlater
              exact lt_of_lt_of_le (lt_of_le_of_ne hsecond hsame) hbehind

/-- A scan in strict reading order that finds exactly the listed positions is
their sorted list. -/
theorem eq_sort_of_mem_iff {scan positions : List Position}
    (hscan : scan.Pairwise (· < ·)) (hnodup : positions.Nodup)
    (hmem : ∀ position, position ∈ scan ↔ position ∈ positions) :
    scan = sort positions := by
  apply hscan.eq_of_mem_iff (pairwise_lt_sort hnodup)
  intro position
  rw [hmem, mem_sort]

end Position

theorem Span.pairwise_lt_toList (span : Span) : span.toList.Pairwise (· < ·) :=
  List.pairwise_lt_range'

/-- The positions of a zone come in strict reading order. -/
theorem Zone.pairwise_lt_positions (zone : Zone) :
    zone.positions.Pairwise (· < ·) := by
  rw [Zone.positions, List.pairwise_flatMap]
  constructor
  · intro row _
    rw [List.pairwise_map]
    exact zone.columns.pairwise_lt_toList.imp fun hcolumn => .inr ⟨rfl, hcolumn⟩
  · refine zone.rows.pairwise_lt_toList.imp fun hrow before hbefore after hafter => ?_
    obtain ⟨column, -, rfl⟩ := List.mem_map.mp hbefore
    obtain ⟨other, -, rfl⟩ := List.mem_map.mp hafter
    exact .inl hrow

/-- Where a scan is cut at a position, the rest of the zone comes later. -/
theorem Zone.mem_before_or_lt {zone : Zone} {before after : List Position}
    {position other : Position} (hscan : zone.positions = before ++ position :: after)
    (hother : other ∈ zone) : other ∈ before ∨ other = position ∨ position < other := by
  have hordered := zone.pairwise_lt_positions
  have hlisted := Zone.mem_positions.mpr hother
  rw [hscan, List.pairwise_append, List.pairwise_cons] at hordered
  rw [hscan, List.mem_append, List.mem_cons] at hlisted
  exact hlisted.imp_right fun h => h.imp_right (hordered.2.1.1 other)

end DishPlanner

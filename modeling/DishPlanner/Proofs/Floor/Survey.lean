import DishPlanner.Proofs.Floor.Gaps
import DishPlanner.Proofs.Floor.Scan

/-!
# Scans of plans with a short array

A scan that only reads is stopped by the first position that it has to read and that a
plan lacks; otherwise it lists what it looks for, in reading order.  What it has to
read is decided before the array is looked at: the free floor of a kitchen never reads an
occupied cell, and the differences of two plans are looked for in both, the first one
first.
-/

namespace DishPlanner

/-- How a scan in reading order ends: the first position that cannot be read stops it with
its fault, and without such a position it lists what is sought. -/
structure Surveys (outcome : Except Fault (List Position)) (unreadable : Position → Prop)
    (fault : Position → Fault) (sought : Position → Prop) : Prop where
  error_iff : (∃ failure, outcome = .error failure) ↔ ∃ position, unreadable position
  first_of_error : ∀ failure, outcome = .error failure →
    ∃ position, unreadable position ∧ (∀ other, unreadable other → position ≤ other) ∧
      failure = fault position
  ordered_of_ok : ∀ found, outcome = .ok found → found.Pairwise (· < ·)
  mem_iff_of_ok : ∀ found, outcome = .ok found → ∀ position, position ∈ found ↔ sought position

namespace Surveys

variable {outcome : Except Fault (List Position)}
  {unreadable blocked sought wanted : Position → Prop} {fault : Position → Fault}

theorem congr (hscan : Surveys outcome unreadable fault sought)
    (hunreadable : ∀ position, unreadable position ↔ blocked position)
    (hsought : ∀ position, sought position ↔ wanted position) :
    Surveys outcome blocked fault wanted := by
  obtain rfl : unreadable = blocked := funext fun position => propext (hunreadable position)
  obtain rfl : sought = wanted := funext fun position => propext (hsought position)
  exact hscan

theorem of_ok {found : List Position} (hnone : ∀ position, ¬ unreadable position)
    (hordered : found.Pairwise (· < ·)) (hmem : ∀ position, position ∈ found ↔ sought position) :
    Surveys (.ok found) unreadable fault sought where
  error_iff := iff_of_false (fun ⟨_, hfailed⟩ => by cases hfailed) fun ⟨position, hposition⟩ =>
    hnone position hposition
  first_of_error _ hfailed := by cases hfailed
  ordered_of_ok _ hfound := by
    cases hfound
    exact hordered
  mem_iff_of_ok _ hfound := by
    cases hfound
    exact hmem

theorem of_error {position : Position} (hposition : unreadable position)
    (hfirst : ∀ other, unreadable other → position ≤ other) :
    Surveys (.error (fault position)) unreadable fault sought where
  error_iff := iff_of_true ⟨_, rfl⟩ ⟨position, hposition⟩
  first_of_error _ hfailed := by
    cases hfailed
    exact ⟨position, hposition, hfirst, rfl⟩
  ordered_of_ok _ hfound := by cases hfound
  mem_iff_of_ok _ hfound := by cases hfound

end Surveys

/-- Collects the positions that pass a test. -/
def collect (keep : Position → Bool) (found : Array Position) (position : Position) :
    Array Position :=
  if keep position then found.push position else found

theorem foldl_collect (keep : Position → Bool) (positions : List Position) :
    positions.foldl (collect keep) #[] = (positions.filter keep).toArray := by
  change positions.foldl
    (fun found position => if keep position then found.push position else found) #[] = _
  rw [← List.foldl_filter, List.foldl_push_eq_append', Array.empty_append]

/-- A scan of a zone that fails at bad positions only and collects what passes a test. -/
theorem Zone.surveys_visit (zone : Zone) {step : Array Position → Position →
      Except Fault (Array Position)} {bad : Position → Prop} {keep : Position → Bool}
    {fault : Position → Fault}
    (hstep : StopsOn step bad (fun _ => True) (collect keep) fun _ position => fault position) :
    Surveys ((zone.visit step #[]).map Array.toList)
      (fun position => position ∈ zone ∧ bad position) fault
      fun position => position ∈ zone ∧ keep position = true := by
  rw [Zone.visit_eq_foldlM]
  by_cases hbad : ∃ position ∈ zone.positions, bad position
  · obtain ⟨before, position, after, hscan, hbefore, hposition, -, hstops⟩ :=
      hstep.exists_foldlM_eq_error trivial hbad
    rw [hstops]
    have hmem : position ∈ zone.positions := by
      rw [hscan]
      exact List.mem_append_right _ List.mem_cons_self
    refine .of_error ⟨Zone.mem_positions.mp hmem, hposition⟩ fun other hother => ?_
    rcases Zone.mem_before_or_lt hscan hother.1 with hearlier | rfl | hlater
    · exact absurd hother.2 (hbefore other hearlier)
    · exact Position.le_refl _
    · exact Position.le_of_lt hlater
  · have hgood : ∀ position ∈ zone.positions, ¬ bad position := fun position hposition hfails =>
      hbad ⟨position, hposition, hfails⟩
    rw [hstep.foldlM_of_forall trivial hgood, foldl_collect]
    refine .of_ok (fun position hposition => ?_) (zone.pairwise_lt_positions.filter _) ?_
    · exact hgood position (Zone.mem_positions.mpr hposition.1) hposition.2
    · intro position
      rw [List.mem_filter, Zone.mem_positions]

namespace FloorPlan

variable {plan left right : FloorPlan}

/-- A position that is not admitted is never read. -/
theorem stopsOn_select (hsize : plan.tiles.size < wordCount) (admitted : Position → Bool)
    (wanted : Tile → Bool) :
    StopsOn
      (fun (found : Array Position) position =>
        if admitted position then do
          let tile ← plan.read position
          return if tile.any wanted then found.push position else found
        else return found)
      (fun position => admitted position = true ∧ plan.Lacks position) (fun _ => True)
      (collect fun position => admitted position && (plan.tileAt position).any wanted)
      fun _ position => plan.lackFault position where
  invariant_next _ _ := trivial
  step_of_not_bad {found} _ position hgood := by
    by_cases hadmitted : admitted position
    · have hfound : ¬ plan.Lacks position := fun hlacks => hgood ⟨hadmitted, hlacks⟩
      rw [collect, if_pos hadmitted, read_of_not_lacks hsize hfound, hadmitted, Bool.true_and]
      rfl
    · rw [collect, if_neg hadmitted, Bool.eq_false_iff.mpr hadmitted]
      rfl
  step_of_bad {found} _ position hbad := by
    rw [if_pos hbad.1, read_of_lacks hbad.2]
    rfl

theorem surveys_select (hsize : plan.tiles.size < wordCount) (zone : Zone)
    (admitted : Position → Bool) (wanted : Tile → Bool) :
    Surveys (plan.select zone admitted wanted)
      (fun position => position ∈ zone ∧ admitted position = true ∧ plan.Lacks position)
      plan.lackFault
      fun position => position ∈ zone ∧ admitted position = true ∧
        (plan.tileAt position).any wanted = true := by
  refine ((zone.clip plan.rows plan.columns).surveys_visit
    (stopsOn_select hsize admitted wanted)).congr ?_ ?_
  · intro position
    rw [Zone.mem_clip]
    constructor
    · rintro ⟨⟨hzone, -⟩, hbad⟩
      exact ⟨hzone, hbad⟩
    · rintro ⟨hzone, hadmitted, hlacks⟩
      exact ⟨⟨hzone, hlacks.1⟩, hadmitted, hlacks⟩
  · intro position
    rw [Zone.mem_clip, Bool.and_eq_true]
    constructor
    · rintro ⟨⟨hzone, -⟩, hkeep⟩
      exact ⟨hzone, hkeep⟩
    · rintro ⟨hzone, hadmitted, hwanted⟩
      obtain ⟨tile, htile, -⟩ := (Option.any_eq_true _ _).mp hwanted
      exact ⟨⟨hzone, covers_of_tileAt_eq_some htile⟩, hadmitted, hwanted⟩

/-- The first plan is read first, so its fault hides one of the second plan. -/
theorem stopsOn_differences (hleft : left.tiles.size < wordCount)
    (hright : right.tiles.size < wordCount) :
    StopsOn
      (fun (found : Array Position) position => do
        let before ← left.read position
        let after ← right.read position
        return if before = after then found else found.push position)
      (fun position => left.Lacks position ∨ right.Lacks position) (fun _ => True)
      (collect fun position => decide (left.tileAt position ≠ right.tileAt position))
      fun _ position =>
        if left.Lacks position then left.lackFault position else right.lackFault position where
  invariant_next _ _ := trivial
  step_of_not_bad {found} _ position hgood := by
    obtain ⟨hfirst, hsecond⟩ := not_or.mp hgood
    simp only [read_of_not_lacks hleft hfirst, read_of_not_lacks hright hsecond, bind, Except.bind,
      pure, Except.pure]
    by_cases hsame : left.tileAt position = right.tileAt position
    · simp [collect, hsame]
    · simp [collect, hsame]
  step_of_bad {found} _ position hbad := by
    by_cases hfirst : left.Lacks position
    · rw [read_of_lacks hfirst, if_pos hfirst]
      rfl
    · have hsecond : right.Lacks position := hbad.resolve_left hfirst
      rw [read_of_not_lacks hleft hfirst, read_of_lacks hsecond, if_neg hfirst]
      rfl

theorem surveys_differences (hleft : left.tiles.size < wordCount)
    (hright : right.tiles.size < wordCount) :
    Surveys (left.differences right)
      (fun position => position ∈ sharedZone left right ∧
        (left.Lacks position ∨ right.Lacks position))
      (fun position =>
        if left.Lacks position then left.lackFault position else right.lackFault position)
      fun position => position ∈ sharedZone left right ∧
        decide (left.tileAt position ≠ right.tileAt position) = true :=
  (sharedZone left right).surveys_visit (stopsOn_differences hleft hright)

theorem tileAt_eq_some_iff {position : Position} {tile : Tile} :
    plan.tileAt position = some tile ↔
      plan.Covers position ∧ plan.tiles[plan.index position]? = some tile := by
  by_cases hcovers : plan.Covers position
  · simp [tileAt, hcovers]
  · simp [tileAt, hcovers]

/-- The reading scans are stopped exactly where a plan lacks a position that they have to
read: for the free floor of a kitchen an unoccupied cell, for the differences of two plans
a position that both cover.  Otherwise they list all that they look for. -/
theorem scans_stop_at_lack (hleft : left.tiles.size < wordCount)
    (hright : right.tiles.size < wordCount) :
    (∀ kitchen occupied,
      Surveys (freeFloor left kitchen occupied)
        (fun position => position ∈ kitchen ∧ left.Lacks position ∧ occupied position = false)
        left.lackFault
        fun position => position ∈ kitchen ∧ left.Covers position ∧ occupied position = false ∧
          left.tiles[left.index position]? = some .kitchenFloor) ∧
      Surveys (left.differences right)
        (fun position => left.Covers position ∧ right.Covers position ∧
          (left.tiles.size ≤ left.index position ∨ right.tiles.size ≤ right.index position))
        (fun position =>
          if left.Lacks position then left.lackFault position else right.lackFault position)
        fun position => left.Covers position ∧ right.Covers position ∧
          left.tiles[left.index position]? ≠ right.tiles[right.index position]? := by
  constructor
  · intro kitchen occupied
    refine (surveys_select hleft kitchen _ _).congr ?_ ?_
    · intro position
      rw [Bool.not_eq_true', and_comm (a := occupied position = false)]
    · intro position
      simp only [Bool.not_eq_true', Option.any_eq_true, decide_eq_true_eq, exists_eq_right,
        tileAt_eq_some_iff]
      exact and_congr_right fun _ => and_left_comm
  · refine (surveys_differences hleft hright).congr ?_ ?_
    · intro position
      rw [mem_sharedZone, and_assoc]
      refine and_congr_right fun hfirst => and_congr_right fun hsecond => ?_
      rw [Lacks, Lacks, and_iff_right hfirst, and_iff_right hsecond]
    · intro position
      rw [mem_sharedZone, and_assoc, decide_eq_true_eq]
      refine and_congr_right fun hfirst => and_congr_right fun hsecond => ?_
      rw [tileAt, tileAt, if_pos hfirst, if_pos hsecond]

/-- A kitchen without its last tile. -/
def annex : FloorPlan := ⟨2, 2, #[.kitchenFloor, .wall, .kitchenFloor]⟩

/-- A wider plan, which ends in its first row. -/
def yard : FloorPlan := ⟨2, 3, #[.kitchenFloor, .door]⟩

theorem scans_stop_at_lack_annex :
    annex.tiles.size < wordCount ∧ yard.tiles.size < wordCount ∧
      freeFloor annex ⟨⟨0, 9⟩, ⟨0, 9⟩⟩ (fun position => position = ⟨1, 1⟩) =
        .ok [⟨0, 0⟩, ⟨1, 0⟩] ∧
      (∃ failure, freeFloor annex ⟨⟨0, 9⟩, ⟨0, 9⟩⟩ (fun _ => false) = .error failure) ∧
      ∃ position, annex.differences yard = .error (yard.lackFault position) ∧
        position ≤ ⟨1, 0⟩ := by
  have hannex : annex.tiles.size < wordCount := by decide
  have hyard : yard.tiles.size < wordCount := by decide
  obtain ⟨hfree, hdifferent⟩ := scans_stop_at_lack hannex hyard
  have hfailure : annex.differences yard = .error (.outOfBounds 2 3) := by decide +kernel
  obtain ⟨position, -, hfirst, hfault⟩ := hdifferent.first_of_error _ hfailure
  have hle : position ≤ ⟨1, 0⟩ := hfirst ⟨1, 0⟩ (by decide)
  -- The annex lacks its last tile only, and the scan does not come that far.
  have hfound : ¬ annex.Lacks position := by
    rintro ⟨⟨hrow, hcolumn⟩, hindex⟩
    simp only [annex, index, Position.le_def, List.size_toArray, List.length_cons,
      List.length_nil] at hrow hcolumn hindex hle
    omega
  refine ⟨hannex, hyard, by decide +kernel, ?_, position, ?_, hle⟩
  · exact (hfree ⟨⟨0, 9⟩, ⟨0, 9⟩⟩ fun _ => false).error_iff.mpr
      ⟨⟨1, 1⟩, by decide, by decide, rfl⟩
  · rw [hfailure, hfault, if_neg hfound]

end FloorPlan

end DishPlanner

import DishPlanner.Fault
import DishPlanner.Floor.Position

/-!
# Rectangular zones

A zone is the product of two half-open spans.  A span whose end does not exceed
its start is empty, and so is a zone with an empty span.  `Zone.positions` is
the list that every scan follows; `Zone.visit` follows it without building it
and stops at the first failure, so a scan of a huge zone costs what it reads.
-/

namespace DishPlanner

/-- The numbers from `start` up to, and without, `stop`. -/
@[ext]
structure Span where
  start : Nat
  stop : Nat
deriving DecidableEq, Repr

namespace Span

instance : Membership Nat Span where
  mem span number := span.start ≤ number ∧ number < span.stop

theorem mem_def {span : Span} {number : Nat} :
    number ∈ span ↔ span.start ≤ number ∧ number < span.stop := Iff.rfl

instance (number : Nat) (span : Span) : Decidable (number ∈ span) :=
  decidable_of_iff' _ mem_def

/-- How many numbers a span holds. -/
def size (span : Span) : Nat := span.stop - span.start

/-- The numbers of a span, ascending. -/
def toList (span : Span) : List Nat := List.range' span.start span.size

@[simp]
theorem length_toList (span : Span) : span.toList.length = span.size := List.length_range'

/-- The list of a span holds exactly its numbers. -/
@[simp]
theorem mem_toList {span : Span} {number : Nat} : number ∈ span.toList ↔ number ∈ span := by
  rw [toList, size, List.mem_range'_1, mem_def]
  omega

/-- The part of a span below a limit. -/
def clip (span : Span) (limit : Nat) : Span := ⟨span.start, min span.stop limit⟩

theorem mem_clip {span : Span} {limit number : Nat} :
    number ∈ span.clip limit ↔ number ∈ span ∧ number < limit := by
  rw [mem_def, mem_def, clip, and_assoc, Nat.lt_min]

/-- The written form of a span. -/
def text (span : Span) : String := s!"{span.start}..{span.stop}"

end Span

variable {ε σ : Type}

/-- Runs a step at `count` consecutive numbers and stops at the first failure. -/
def visitFrom (step : σ → Nat → Except ε σ) : (count next : Nat) → σ → Except ε σ
  | 0, _, state => .ok state
  | count + 1, next, state =>
      match step state next with
      | .error failure => .error failure
      | .ok state => visitFrom step count (next + 1) state

/-- Runs a step at every number of a span, ascending. -/
def Span.visit (span : Span) (step : σ → Nat → Except ε σ) (state : σ) : Except ε σ :=
  visitFrom step span.size span.start state

theorem visitFrom_eq_foldlM (step : σ → Nat → Except ε σ) (count next : Nat) (state : σ) :
    visitFrom step count next state = (List.range' next count).foldlM step state := by
  induction count generalizing next state with
  | zero => rfl
  | succ count ih =>
      rw [List.range'_succ, List.foldlM_cons, visitFrom]
      cases step state next with
      | error failure => rfl
      | ok state => exact ih (next + 1) state

theorem Span.visit_eq_foldlM (span : Span) (step : σ → Nat → Except ε σ) (state : σ) :
    span.visit step state = span.toList.foldlM step state :=
  visitFrom_eq_foldlM step _ _ state

/-- A rectangle of positions. -/
@[ext]
structure Zone where
  rows : Span
  columns : Span
deriving DecidableEq, Repr

namespace Zone

instance : Membership Position Zone where
  mem zone position := position.row ∈ zone.rows ∧ position.column ∈ zone.columns

theorem mem_def {zone : Zone} {position : Position} :
    position ∈ zone ↔ position.row ∈ zone.rows ∧ position.column ∈ zone.columns := Iff.rfl

instance (position : Position) (zone : Zone) : Decidable (position ∈ zone) :=
  decidable_of_iff' _ mem_def

/-- The number of positions, if it fits a word. -/
def area (zone : Zone) : Except Fault Nat := checkedMul zone.rows.size zone.columns.size

/-- Every position of a zone in reading order. -/
def positions (zone : Zone) : List Position :=
  zone.rows.toList.flatMap fun row => zone.columns.toList.map fun column => ⟨row, column⟩

/-- The list of a zone holds exactly its positions. -/
@[simp]
theorem mem_positions {zone : Zone} {position : Position} :
    position ∈ zone.positions ↔ position ∈ zone := by
  obtain ⟨row, column⟩ := position
  rw [positions, List.mem_flatMap, mem_def]
  constructor
  · rintro ⟨listed, hrow, hposition⟩
    obtain ⟨other, hcolumn, hequal⟩ := List.mem_map.mp hposition
    obtain ⟨rfl, rfl⟩ := Position.mk.inj hequal
    exact ⟨Span.mem_toList.mp hrow, Span.mem_toList.mp hcolumn⟩
  · rintro ⟨hrow, hcolumn⟩
    exact ⟨row, Span.mem_toList.mpr hrow,
      List.mem_map.mpr ⟨column, Span.mem_toList.mpr hcolumn, rfl⟩⟩

theorem length_positions (zone : Zone) :
    zone.positions.length = zone.rows.size * zone.columns.size := by
  simp [positions, List.length_flatMap, List.map_const']

/-- The part of a zone inside the first `rows` rows and `columns` columns. -/
def clip (zone : Zone) (rows columns : Nat) : Zone :=
  ⟨zone.rows.clip rows, zone.columns.clip columns⟩

theorem mem_clip {zone : Zone} {rows columns : Nat} {position : Position} :
    position ∈ zone.clip rows columns ↔
      position ∈ zone ∧ position.row < rows ∧ position.column < columns := by
  simp only [mem_def, clip, Span.mem_clip]
  exact ⟨fun h => ⟨⟨h.1.1, h.2.1⟩, h.1.2, h.2.2⟩, fun h => ⟨⟨h.1.1, h.2.1⟩, h.1.2, h.2.2⟩⟩

/-- Runs a step at every position of a zone in reading order and stops at the first failure.
A zone without columns is left at once, however many rows it has. -/
def visit (zone : Zone) (step : σ → Position → Except ε σ) (state : σ) : Except ε σ :=
  if zone.columns.size = 0 then .ok state
  else zone.rows.visit
    (fun state row => zone.columns.visit (fun state column => step state ⟨row, column⟩) state) state

private theorem foldlM_flatMap {α β : Type} (step : σ → β → Except ε σ) (parts : α → List β)
    (items : List α) (state : σ) :
    (items.flatMap parts).foldlM step state =
      items.foldlM (fun state item => (parts item).foldlM step state) state := by
  induction items generalizing state with
  | nil => rfl
  | cons item items ih =>
      rw [List.flatMap_cons, List.foldlM_append, List.foldlM_cons]
      exact bind_congr fun state => ih state

theorem visit_eq_foldlM (zone : Zone) (step : σ → Position → Except ε σ) (state : σ) :
    zone.visit step state = zone.positions.foldlM step state := by
  unfold visit positions
  split
  next hempty =>
    have hcolumns : zone.columns.toList = [] := by simp [Span.toList, hempty]
    have hpositions : (zone.rows.toList.flatMap fun row =>
        zone.columns.toList.map fun column => (⟨row, column⟩ : Position)) = [] := by
      simp [hcolumns]
    rw [hpositions]
    rfl
  next =>
    rw [Span.visit_eq_foldlM, foldlM_flatMap]
    congr 1
    funext state row
    rw [Span.visit_eq_foldlM, List.foldlM_map]

end Zone

end DishPlanner

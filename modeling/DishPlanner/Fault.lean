import DishPlanner.Word

/-!
# Faults of 64-bit arithmetic

Rows, columns and counts are natural numbers, but every size that the planner
computes from them has to fit one 64-bit word, and every tile it touches has to
exist.  A computation that would leave this range stops with a `Fault`, so the
range is part of the meaning of a program and not an assumption about it.

Memory for a computed number of items is reserved before there are any, and no
single piece of it is as large as `memoryLimit`.  A list that is already held has
its place, so what is no longer than such a list needs no check; and nothing here
asks whether the machine has the memory.
-/

namespace DishPlanner

/-- What stops a computation on sizes and positions. -/
inductive Fault where
  /-- A product does not fit a word. -/
  | productTooLarge
  /-- A sum does not fit a word. -/
  | sumTooLarge
  /-- More memory is to be reserved than one piece can have. -/
  | capacityTooLarge
  /-- A tile is asked for at an index that the stored list does not reach. -/
  | outOfBounds (length index : Nat)
  /-- A number is to be drawn from an empty range. -/
  | emptyRange
deriving DecidableEq, Repr

/-- The sentence that reports a fault. -/
def Fault.message : Fault → String
  | .productTooLarge => "attempt to multiply with overflow"
  | .sumTooLarge => "attempt to add with overflow"
  | .capacityTooLarge => "capacity overflow"
  | .outOfBounds length index =>
      s!"index out of bounds: the len is {length} but the index is {index}"
  | .emptyRange => "cannot sample empty range"

/-- The product, if it fits a word. -/
def checkedMul (left right : Nat) : Except Fault Nat :=
  if left * right < wordCount then .ok (left * right) else .error .productTooLarge

/-- The sum, if it fits a word. -/
def checkedAdd (left right : Nat) : Except Fault Nat :=
  if left + right < wordCount then .ok (left + right) else .error .sumTooLarge

/-- One piece of memory has fewer bytes. -/
def memoryLimit : Nat := 9223372036854775808

theorem memoryLimit_lt_wordCount : memoryLimit < wordCount := by decide

/-- Reserves memory for a number of items of one size in bytes. -/
def reserve (bytes count : Nat) : Except Fault Unit :=
  if bytes * count < memoryLimit then .ok () else .error .capacityTooLarge

theorem checkedMul_of_lt {left right : Nat} (hfits : left * right < wordCount) :
    checkedMul left right = .ok (left * right) := if_pos hfits

theorem checkedAdd_of_lt {left right : Nat} (hfits : left + right < wordCount) :
    checkedAdd left right = .ok (left + right) := if_pos hfits

theorem checkedMul_of_le {left right : Nat} (hlarge : wordCount ≤ left * right) :
    checkedMul left right = .error .productTooLarge := if_neg (Nat.not_lt.mpr hlarge)

theorem checkedAdd_of_le {left right : Nat} (hlarge : wordCount ≤ left + right) :
    checkedAdd left right = .error .sumTooLarge := if_neg (Nat.not_lt.mpr hlarge)

theorem reserve_of_lt {bytes count : Nat} (hfits : bytes * count < memoryLimit) :
    reserve bytes count = .ok () := if_pos hfits

theorem reserve_of_le {bytes count : Nat} (hlarge : memoryLimit ≤ bytes * count) :
    reserve bytes count = .error .capacityTooLarge := if_neg (Nat.not_lt.mpr hlarge)

end DishPlanner

import DishPlanner.Word

/-!
# Sources of random words

A `Source σ` reads words off a state of type `σ`.  A draw is a function of that
state which gives a value and the state behind it, so what a computation consumed
is part of its result.

A number below a bound is drawn by widening multiplication: the upper half of
`word * bound` is the number, and words whose lower half exceeds a ceiling are
rejected, which leaves every number equally many words.  Rejection may go on, so
a source carries the number of words it is ready to try; a draw that needs more
is `none`.
-/

namespace DishPlanner

/-- A way to read random words off a state. -/
structure Source (σ : Type) where
  /-- The next short word and the state behind it. -/
  next32 : σ → UInt32 × σ
  /-- The next long word and the state behind it. -/
  next64 : σ → UInt64 × σ
  /-- How many words one draw may try. -/
  patience : Nat

/-- A computation that reads a random state; `none` when a draw outlasts the source's patience. -/
abbrev Draw (σ α : Type) := StateT σ Option α

theorem Draw.bind_apply {σ α β : Type} (draw : Draw σ α) (next : α → Draw σ β) (state : σ) :
    (draw >>= next) state = (draw state).bind fun drawn => next drawn.1 drawn.2 := rfl

/-- The width of the words that a number is drawn from. -/
inductive WordSize where
  | short
  | long
deriving DecidableEq, Repr

namespace WordSize

/-- The bits of a word. -/
def bits : WordSize → Nat
  | .short => 32
  | .long => 64

/-- The number of values of a word. -/
def count : WordSize → Nat
  | .short => 4294967296
  | .long => wordCount

/-- Short words serve every bound that one of them can hold. -/
def fitting (bound : Nat) : WordSize := if bound < short.count then .short else .long

/-- The largest lower half that is accepted when drawing below `bound`: the bound, shifted up
until its highest bit is the highest of the word, less one. -/
def ceiling (size : WordSize) (bound : Nat) : Nat :=
  (bound <<< (size.bits - 1 - bound.log2)) - 1

end WordSize

namespace Source

variable {σ : Type}

/-- The next word of a width, as a number. -/
def word (source : Source σ) (size : WordSize) (state : σ) : Nat × σ :=
  match size with
  | .short => let (drawn, state) := source.next32 state; (drawn.toNat, state)
  | .long => let (drawn, state) := source.next64 state; (drawn.toNat, state)

/-- Draws a number below a bound within a number of trials. -/
def belowWithin (source : Source σ) (size : WordSize) (bound : Nat) : Nat → Draw σ Nat
  | 0 => fun _ => none
  | trials + 1 => fun state =>
      let (drawn, state) := source.word size state
      let product := drawn * bound
      if product % size.count ≤ size.ceiling bound then some (product / size.count, state)
      else belowWithin source size bound trials state

/-- Draws a number below a bound; a bound of one consumes a word as well. -/
def below (source : Source σ) (size : WordSize) (bound : Nat) : Draw σ Nat :=
  source.belowWithin size bound source.patience

/-- Draws one of two sides: `true` for the lower half of the long words. -/
def coin (source : Source σ) : Draw σ Bool := fun state =>
  let (drawn, state) := source.next64 state
  some (drawn < 0x8000000000000000, state)

/-- The next long word, which stays unread. -/
def peek (source : Source σ) (state : σ) : UInt64 := (source.next64 state).1

end Source

end DishPlanner

import DishPlanner.Draw.Keystream
import DishPlanner.Draw.Source

/-!
# Generators

The random states of the planner: the keystream of a seed, or a script, which is
a finite list of long words followed by zeros for ever.
-/

namespace DishPlanner

/-- A random state. -/
inductive Generator where
  | scripted (words : List UInt64)
  | keyed (stream : Keystream)

namespace Generator

/-- The generator of a seed. -/
def ofSeed (seed : UInt64) : Generator := .keyed (.ofSeed seed)

/-- The next long word. -/
def next64 : Generator → UInt64 × Generator
  | .scripted [] => (0, .scripted [])
  | .scripted (word :: words) => (word, .scripted words)
  | .keyed stream => let (word, stream) := stream.next64; (word, .keyed stream)

/-- The next short word; a script gives the low half of a long word. -/
def next32 : Generator → UInt32 × Generator
  | .scripted words =>
      let (word, rest) := (Generator.scripted words).next64
      (word.toUInt32, rest)
  | .keyed stream => let (word, stream) := stream.next32; (word, .keyed stream)

/-- Generators as a source of words. -/
def source : Source Generator where
  next32 := next32
  next64 := next64
  patience := 1000000000000000000

end Generator

end DishPlanner

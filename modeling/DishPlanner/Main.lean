import DishPlanner.CommandLine.Run

/-!
# The program
-/

namespace DishPlanner

/-- The generator of a key that the system draws. -/
def systemGenerator : IO Generator := do
  let bytes ← IO.getRandomBytes 32
  let word (index : Fin 8) : UInt32 :=
    (List.range 4).foldl
      (fun word place => word * 256 + (bytes.get! (4 * index.val + place)).toUInt32) 0
  return .keyed (.ofKey (Vector.ofFn word))

end DishPlanner

/-- Runs the program on the words of the command line, which the runtime has decoded. -/
def main (words : List String) : IO UInt32 := do
  match DishPlanner.run (words.map String.toUTF8) (← DishPlanner.systemGenerator) with
  | none => return DishPlanner.Output.failure.toUInt32
  | some output =>
      IO.print output.text
      return output.exitCode.toUInt32

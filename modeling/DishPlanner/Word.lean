/-!
# Words

Sizes, positions and seeds are numbers of 64 bits.
-/

namespace DishPlanner

/-- The number of values of a 64-bit word. -/
def wordCount : Nat := 18446744073709551616

end DishPlanner

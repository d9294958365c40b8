import DishPlanner.Report.Tally

/-!
# The report of a dinner

The report has ten lines of heading and one line per pairing.  A pairing shows
the n-th person of the roll beside the n-th placed dish; dishes belong to no
particular person, so the pairing is for display only.
-/

namespace DishPlanner

/-- A person shown beside a dish. -/
structure Pairing where
  person : Nat
  diet : Diet
  /-- Where the person stands, if the list of people reaches that far. -/
  place : Option Position
  dish : Position
deriving DecidableEq, Repr

/-- Pairs persons by number with dishes in the order of placement, as far as both reach. -/
def pairings (roll : Roll) (servings : List Serving) (people : List Position) : List Pairing :=
  List.zipWith
    (fun entry serving =>
      ⟨entry.1, entry.2, if entry.1 = 0 then none else people[entry.1 - 1]?, serving.position⟩)
    roll.entries servings

namespace Pairing

/-- The line of a pairing. -/
def text (pairing : Pairing) : String :=
  let place := (pairing.place.map Position.text).getD "Unknown"
  s!"Person {pairing.person} at {place}: dietary {pairing.diet.name} at {pairing.dish.text}"

end Pairing

/-- Numbers in brackets. -/
def bracketed (numbers : List Nat) : String :=
  "[" ++ String.intercalate ", " (numbers.map toString) ++ "]"

/-- The rule above and below the title. -/
def reportRule : String := String.ofList (List.replicate 60 '=')

/-- The ten lines above the pairings. -/
def Tally.heading (tally : Tally) : List String :=
  [ "",
    reportRule,
    "DISH GENERATION AND DIETARY PREFERENCES SUMMARY",
    reportRule,
    "",
    s!"Total People: {tally.people}",
    s!"Vegan People: {tally.veganCount} - {bracketed tally.vegans}",
    s!"Non-Vegetarian People: {tally.nonVegetarianCount} - {bracketed tally.nonVegetarians}",
    "",
    "Person-Preference Mapping:" ]

/-- The lines of a report. -/
def reportLines (roll : Roll) (servings : List Serving) (people : List Position) : List String :=
  (Tally.of roll servings).heading ++ (pairings roll servings people).map Pairing.text

/-- The report: every line is ended by a line feed. -/
def report (roll : Roll) (servings : List Serving) (people : List Position) : String :=
  String.join ((reportLines roll servings people).map (· ++ "\n"))

end DishPlanner

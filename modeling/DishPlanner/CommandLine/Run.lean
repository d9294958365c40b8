import DishPlanner.Codec.Dinner
import DishPlanner.CommandLine.Options
import DishPlanner.Floor.Drawing
import DishPlanner.House.Sweep
import DishPlanner.Inspection
import DishPlanner.Json.Printer
import DishPlanner.Report.Text

/-!
# The command line

A run decodes its arguments, which come as bytes, and builds the sample house.  It
seats guests there, prepares their dinner and prints it as a map with a report or
as a tally, and then sweeps the house.  The exit code is zero if every check of
the sweep passed.
-/

namespace DishPlanner

/-- What a run leaves behind. -/
structure Output where
  text : String
  exitCode : UInt8
deriving DecidableEq, Repr

namespace Output

/-- What a run prints first. -/
def title : String := "=== Dwelling Dish Harness ===\n\n"

def failure : UInt8 := 1

/-- The exit code of a run that a fault stopped. -/
def faultFailure : UInt8 := 101

end Output

structure Evening where
  people : List Position
  problems : List Problem
  attempt : Attempt DinnerError Dinner

/-- Seats guests, inspects the house and prepares the dinner. -/
def House.host {σ : Type} (source : Source σ) (house : House) (count : Nat)
    (settings : Settings) : Draw σ (Except Fault Evening) := do
  match ← house.seatGuests source count with
  | .error fault => return .error fault
  | .ok people =>
      match inspect house.plan house.rooms people settings with
      | .error fault => return .error fault
      | .ok problems =>
          let attempt ← prepare source house.plan house.rooms people people.contains settings
          return .ok ⟨people, problems, attempt⟩

def Options.settings (options : Options) : Settings := { seed := options.seed }

def Problem.line (problem : Problem) : String :=
  let level := if problem.isError then "ERROR" else "WARN"
  s!"[{level}] {problem.category}: {problem.message}\n"

/-- The map of a dinner with its report. -/
def Dinner.page (dinner : Dinner) (people : List Position) : Except Fault String := do
  let shown ← dinner.plan.showPeople people
  let map ← shown.render
  let missing :=
    if dinner.allPlaced then ""
    else s!"\nWarning: {dinner.unplaced.length} dishes could not be placed\n"
  return map ++ "\n" ++ report dinner.roll dinner.servings people ++ missing

def Dinner.tallyPage (dinner : Dinner) : String :=
  (Tally.of dinner.roll dinner.servings).toJson.pretty ++ "\n"

def Check.line (check : Check) : String :=
  let mark := if check.passed then "✓" else "✗"
  s!"  {mark} {check.name}: {check.detail}\n"

/-- The lines of a sweep: failed checks, or all of them if `verbose` is set, and the result. -/
def sweepPage (checks : List Check) (verbose : Bool) : String :=
  let shown := checks.filter fun check => !check.passed || verbose
  let passed := (checks.filter Check.passed).length
  let failed := checks.length - passed
  String.join (shown.map Check.line) ++
    s!"\n=== RESULT: {passed}/{checks.length} passed, {failed} failed ===\n"

/-- The output of a run on a house whose own source is in state `state`; `none` when a draw did not
end. -/
def House.run {σ : Type} (source : Source σ) (start : Nat → σ) (house : House)
    (options : Options) (state : σ) : Option Output :=
  match house.host source options.people options.settings state with
  | none => none
  | some (.error _, _) => some ⟨Output.title, Output.faultFailure⟩
  | some (.ok evening, _) =>
      let opening := Output.title ++ String.join (evening.problems.map Problem.line)
      match evening.attempt.result with
      | .error (.noKitchen _) => some ⟨opening, Output.failure⟩
      | .error (.fault _) => some ⟨opening, Output.faultFailure⟩
      | .ok dinner =>
          let page :=
            if options.json then .ok dinner.tallyPage else dinner.page evening.people
          match page with
          | .error _ => some ⟨opening, Output.faultFailure⟩
          | .ok page =>
              let opening := opening ++ page ++ "\n--- Dish Generation Sweep ---\n"
              match house.sweep source start with
              | none => none
              | some (.error _) => some ⟨opening, Output.faultFailure⟩
              | some (.ok checks) =>
                  let exitCode := if checks.all Check.passed then 0 else Output.failure
                  some ⟨opening ++ sweepPage checks options.verbose, exitCode⟩

/-- The output of the program for its arguments, as bytes.  One that is no text stops a run before
anything is printed.  Without a seed the dinner draws from `fallback`. -/
def run (arguments : List ByteArray) (fallback : Generator) : Option Output :=
  match arguments.mapM String.fromUTF8? with
  | none => some ⟨"", Output.faultFailure⟩
  | some words =>
      let options := Options.ofWords words
      match House.buildSample with
      | .error _ => some ⟨Output.title, Output.faultFailure⟩
      | .ok house =>
          house.run Generator.source (fun seed => .ofSeed (UInt64.ofNat seed)) options
            (options.settings.generator fallback)

end DishPlanner

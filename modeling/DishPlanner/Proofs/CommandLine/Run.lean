import DishPlanner.CommandLine.Run
import DishPlanner.Proofs.House.Sweep
import DishPlanner.Proofs.Inspection

/-!
# Runs of the program

A run hosts an evening, prints it and sweeps the house.  Seating, inspecting and
preparing cannot fail in a well-formed house with a kitchen, its map can be
drawn, and the sweep is flawless, so a run whose draws end exits with zero.  What
stops the program is an argument that is no text, and that before anything is
drawn.
-/

namespace DishPlanner

variable {σ : Type}

/-- A dinner is shown if memory has room for the drawing of its plan. -/
theorem Dinner.exists_page {dinner : Dinner} (hplan : dinner.plan.WellFormed)
    (hwide : dinner.plan.columns + 1 < wordCount)
    (hfits : dinner.plan.rows * (dinner.plan.columns + 1) < memoryLimit)
    (people : List Position) : ∃ text, dinner.page people = .ok text := by
  rw [← dinner.plan.columns_stamp people .occupant] at hwide hfits
  rw [← dinner.plan.rows_stamp people .occupant] at hfits
  rw [page, hplan.showPeople_eq]
  simp only [bind, Except.bind, FloorPlan.render_of_fits hwide hfits]
  exact ⟨_, rfl⟩

namespace House

variable {house : House} {kitchen : Zone} {source : Source σ}

/-- Hosting an evening is its draws, and all else is a function of them. -/
theorem host_eq (hplan : house.plan.WellFormed)
    (hsize : house.plan.tiles.size < memoryLimit) {settings : Settings}
    (hkitchen : house.rooms.find? settings.kitchenKey = some kitchen) (count : Nat)
    (state : σ) :
    house.host source count settings state =
      (house.drawEvening source kitchen count state).map fun drawn =>
        let people := drawn.1.1
        let cells := freeCells house.plan kitchen people.contains
        (.ok ⟨people, problems house.plan house.rooms people settings,
          ⟨drawn.1.2.notices house.plan cells people.length,
            .ok (drawn.1.2.dinner house.plan cells)⟩⟩, drawn.2) := by
  simp only [host, drawEvening, Draw.bind_apply, seatGuests_eq hplan]
  cases source.drawSwaps house.walkable.length state with
  | none => rfl
  | some seated =>
      have hpeople := length_guests_lt hplan hsize seated.1 count
      simp only [Option.map_some, Option.bind_some, hplan.inspect_eq, Draw.bind_apply,
        hplan.prepare_eq hkitchen hpeople]
      generalize house.guests seated.1 count = people
      cases drawDinner source people.length
          (freeCells house.plan kitchen people.contains).length seated.2 with
      | none => rfl
      | some drawn => rfl

end House

theorem passed_of_mem_checks_flawless {dinners : Nat} {check : Check}
    (hcheck : check ∈ (Findings.flawless dinners).checks) : check.passed = true := by
  revert check
  simp [Findings.checks, Findings.flawless, Findings.none, Check.ofCount]

/-- The last line of a flawless sweep. -/
def flawlessResult : String := "\n=== RESULT: 7/7 passed, 0 failed ===\n"

theorem exists_sweepPage_flawless (dinners : Nat) (verbose : Bool) :
    ∃ shown, sweepPage (Findings.flawless dinners).checks verbose = shown ++ flawlessResult := by
  have hpassed : (Findings.flawless dinners).checks.filter Check.passed =
      (Findings.flawless dinners).checks :=
    List.filter_eq_self.mpr fun check => passed_of_mem_checks_flawless
  have hlength : (Findings.flawless dinners).checks.length = 7 := rfl
  rw [sweepPage]
  simp only [hpassed, hlength]
  exact ⟨_, rfl⟩

namespace House

variable {house : House} {kitchen : Zone} {source : Source σ} {start : Nat → σ}

/-- The page of a dinner, in one form or the other. -/
theorem exists_runPage {dinner : Dinner} {occupied : Position → Bool}
    (hserved : dinner.ServedOn house.plan occupied) (hplan : house.plan.WellFormed)
    (hwide : house.plan.columns + 1 < wordCount)
    (hfits : house.plan.rows * (house.plan.columns + 1) < memoryLimit) (json : Bool)
    (people : List Position) :
    ∃ text, (if json then .ok dinner.tallyPage else dinner.page people) = Except.ok text := by
  cases json with
  | true => exact ⟨_, rfl⟩
  | false =>
      rw [← hserved.columns_eq] at hwide hfits
      rw [← hserved.rows_eq] at hfits
      exact Dinner.exists_page (hserved.wellFormed hplan) hwide hfits people

/-- The draws of a run come to an end: those of its own evening and those of the
sweep behind it. -/
def RunEnds (source : Source σ) (start : Nat → σ) (house : House) (kitchen : Zone)
    (count : Nat) (state : σ) : Prop :=
  (house.drawEvening source kitchen count state).isSome ∧ house.RoundsEnd source start kitchen

instance (source : Source σ) (start : Nat → σ) (house : House) (kitchen : Zone) (count : Nat)
    (state : σ) : Decidable (house.RunEnds source start kitchen count state) :=
  inferInstanceAs (Decidable (_ ∧ _))

section Ends

variable (hplan : house.plan.WellFormed) (hsize : house.plan.tiles.size < memoryLimit)
  (hwide : house.plan.columns + 1 < wordCount)
  (hfits : house.plan.rows * (house.plan.columns + 1) < memoryLimit)
  (hkitchen : house.rooms.find? Rooms.kitchenKey = some kitchen)

include hplan hsize hwide hfits hkitchen

/-- Behind its own evening a run gets as far as its sweep, which is flawless. -/
theorem exists_run_of_drawEvening {options : Options} {state : σ}
    {drawn : (List Position × DinnerDraws) × σ}
    (hdrawn : house.drawEvening source kitchen options.people state = some drawn) :
    ∃ opening, house.run source start options state =
      if house.RoundsEnd source start kitchen then some ⟨opening ++ flawlessResult, 0⟩
      else none := by
  obtain ⟨⟨people, draws⟩, rest⟩ := drawn
  have hsettings : house.rooms.find? options.settings.kitchenKey = some kitchen := hkitchen
  have hserved := draws.servedOn_dinner house.plan kitchen people.contains
  obtain ⟨page, hpage⟩ := exists_runPage hserved hplan hwide hfits options.json people
  obtain ⟨shown, hshown⟩ := exists_sweepPage_flawless sweepSeeds options.verbose
  have hpassed : (Findings.flawless sweepSeeds).checks.all Check.passed = true :=
    List.all_eq_true.mpr fun check => passed_of_mem_checks_flawless
  rw [House.run, host_eq hplan hsize hsettings, hdrawn, Option.map_some]
  simp only [hpage, sweep_eq hplan hsize hkitchen]
  by_cases hrounds : house.RoundsEnd source start kitchen
  · simp only [if_pos hrounds, hpassed, if_true, hshown]
    exact ⟨_, congrArg (fun text => some (Output.mk text 0)) String.append_assoc.symm⟩
  · simp only [if_neg hrounds]
    exact ⟨"", trivial⟩

/-- Only endless draws keep a run from exiting with zero behind a flawless sweep. -/
theorem exists_run (source : Source σ) (start : Nat → σ) (options : Options) (state : σ) :
    ∃ opening, house.run source start options state =
      if house.RunEnds source start kitchen options.people state then
        some ⟨opening ++ flawlessResult, 0⟩
      else none := by
  cases hdrawn : house.drawEvening source kitchen options.people state with
  | none =>
      have hsettings : house.rooms.find? options.settings.kitchenKey = some kitchen := hkitchen
      have hendless : ¬ house.RunEnds source start kitchen options.people state := by
        rw [RunEnds, hdrawn]
        simp
      refine ⟨"", ?_⟩
      rw [if_neg hendless, House.run, host_eq hplan hsize hsettings, hdrawn]
      rfl
  | some drawn =>
      obtain ⟨opening, hopening⟩ :=
        exists_run_of_drawEvening hplan hsize hwide hfits hkitchen hdrawn
      refine ⟨opening, hopening.trans (if_congr ?_ rfl rfl)⟩
      rw [RunEnds, hdrawn, Option.isSome_some, eq_self, true_and]

end Ends

end House

/-! ## Decoding the arguments -/

/-- Arguments that are texts are decoded to these. -/
theorem mapM_fromUTF8?_toUTF8 (words : List String) :
    (words.map String.toUTF8).mapM String.fromUTF8? = some words := by
  induction words with
  | nil => rfl
  | cons word words ih =>
      have hword : String.fromUTF8? word.toUTF8 = some word := dif_pos word.isValidUTF8
      rw [List.map_cons, List.mapM_cons, hword, ih]
      rfl

theorem mapM_fromUTF8?_eq_none {arguments : List ByteArray}
    (hinvalid : ∃ argument ∈ arguments, ¬ argument.IsValidUTF8) :
    arguments.mapM String.fromUTF8? = none := by
  induction arguments with
  | nil => simp at hinvalid
  | cons first rest ih =>
      rw [List.mapM_cons]
      obtain ⟨argument, hmem, hargument⟩ := hinvalid
      rcases List.mem_cons.mp hmem with rfl | hrest
      · rw [String.fromUTF8?, dif_neg hargument]
        rfl
      · rw [ih ⟨argument, hrest, hargument⟩]
        cases String.fromUTF8? first with
        | none => rfl
        | some word => rfl

/-- The program with readable arguments is a run in the sample house. -/
theorem run_toUTF8 (words : List String) (fallback : Generator) :
    run (words.map String.toUTF8) fallback =
      House.sample.run Generator.source (fun seed => .ofSeed (UInt64.ofNat seed))
        (.ofWords words) ((Options.ofWords words).settings.generator fallback) := by
  rw [run, mapM_fromUTF8?_toUTF8, House.buildSample_eq]

/-! ## Flawless sweeps -/

/-- Every house with a kitchen passes its sweep, whatever is drawn: each round is
served and breaks no rule, and all seven checks pass.  A run of the program with
arguments that are texts is a run in the sample house, so it exits with zero as soon
as its draws end; with other arguments it prints nothing and fails. -/
theorem House.sweep_flawless :
    (∀ {σ : Type} (source : Source σ) (start : Nat → σ) (house : House) (kitchen : Zone),
      house.plan.WellFormed → house.plan.tiles.size < memoryLimit →
      house.rooms.find? Rooms.kitchenKey = some kitchen →
      house.RoundsEnd source start kitchen →
      (∀ seed < sweepSeeds, ∃ rest,
        house.sweepOnce source kitchen (house.capacity kitchen) (start seed) =
          some (.ok (.ok (.flawless 1)), rest)) ∧
      ∃ checks, house.sweep source start = some (.ok checks) ∧ checks.length = 7 ∧
        ∀ check ∈ checks, check.passed = true) ∧
    (∀ {σ : Type} (source : Source σ) (start : Nat → σ) (words : List String) (state : σ),
      ∃ opening, sample.run source start (.ofWords words) state =
        if sample.RunEnds source start sampleKitchen (Options.ofWords words).people state then
          some ⟨opening ++ "\n=== RESULT: 7/7 passed, 0 failed ===\n", 0⟩
        else none) ∧
    (∀ (words : List String) (fallback : Generator),
      ∃ opening, DishPlanner.run (words.map String.toUTF8) fallback =
        if sample.RunEnds Generator.source (fun seed => .ofSeed (UInt64.ofNat seed)) sampleKitchen
            (Options.ofWords words).people
            ((Options.ofWords words).settings.generator fallback) then
          some ⟨opening ++ "\n=== RESULT: 7/7 passed, 0 failed ===\n", 0⟩
        else none) ∧
    ∀ (arguments : List ByteArray) (fallback : Generator),
      (∃ argument ∈ arguments, ¬ argument.IsValidUTF8) →
      DishPlanner.run arguments fallback = some ⟨"", 101⟩ := by
  have hsample : ∀ {σ : Type} (source : Source σ) (start : Nat → σ) (options : Options)
      (state : σ), ∃ opening, sample.run source start options state =
        if sample.RunEnds source start sampleKitchen options.people state then
          some ⟨opening ++ flawlessResult, 0⟩
        else none :=
    exists_run wellFormed_sample (by decide +kernel) (by decide) (by decide)
      find?_kitchen_sample
  refine ⟨?_, fun source start words state => hsample source start _ state, ?_, ?_⟩
  · intro σ source start house kitchen hplan hsize hkitchen hrounds
    constructor
    · intro seed hseed
      obtain ⟨drawn, hdrawn⟩ := Option.isSome_iff_exists.mp (hrounds seed hseed)
      exact ⟨drawn.2, by rw [sweepOnce_eq hplan hsize hkitchen, hdrawn, Option.map_some]⟩
    · refine ⟨(Findings.flawless sweepSeeds).checks, ?_, rfl, ?_⟩
      · rw [sweep_eq hplan hsize hkitchen, if_pos hrounds]
      · exact fun check => passed_of_mem_checks_flawless
  · intro words fallback
    rw [run_toUTF8]
    exact hsample _ _ _ _
  · intro arguments fallback hinvalid
    rw [DishPlanner.run, mapM_fromUTF8?_eq_none hinvalid]
    rfl

/-- A byte that begins no character, as the only argument of the program. -/
def brokenArguments : List ByteArray := [⟨#[0xff]⟩]

/-- No draw is waited for, and yet the program does not exit with zero. -/
theorem run_brokenArguments :
    DishPlanner.run brokenArguments (.scripted []) = some ⟨"", 101⟩ ∧
      ∀ opening, DishPlanner.run brokenArguments (.scripted []) ≠
        some ⟨opening ++ "\n=== RESULT: 7/7 passed, 0 failed ===\n", 0⟩ := by
  have hrun : DishPlanner.run brokenArguments (.scripted []) = some ⟨"", 101⟩ := rfl
  refine ⟨hrun, fun opening hzero => ?_⟩
  rw [hrun] at hzero
  have hcode : (101 : UInt8) = 0 := congrArg Output.exitCode (Option.some.inj hzero)
  exact absurd hcode (by decide)

/-- A kitchen that reaches beyond any plan. -/
def cottageKitchen : Zone := ⟨⟨0, wordCount - 1⟩, ⟨0, wordCount - 1⟩⟩

/-- A house with rooms that overlap, reach beyond it and end before they start. -/
def cottage : House where
  plan := ⟨2, 3, #[.kitchenFloor, .kitchenFloor, .wall, .other 'L', .kitchenFloor, .door]⟩
  rooms := .ofList
    [ (Rooms.kitchenKey, cottageKitchen),
      (Rooms.livingRoomKey, ⟨⟨0, 1⟩, ⟨1, 9⟩⟩),
      (Rooms.bedroomKey, ⟨⟨5, 2⟩, ⟨0, 3⟩⟩) ]

/-- A script whose first word draws an eighth of any range. -/
def eighthScript : Generator := .scripted [2305843009213693952]

/-- A round in the sample house ends on that script. -/
theorem House.isSome_drawRound_sample :
    (sample.drawRound Generator.source sampleKitchen (sample.capacity sampleKitchen + 6)
      eighthScript).isSome := by
  decide +kernel

theorem House.sweep_flawless_cottage :
    cottage.plan.WellFormed ∧ cottage.plan.tiles.size < memoryLimit ∧
      cottage.rooms.find? Rooms.kitchenKey = some cottageKitchen ∧
      cottage.RoundsEnd Generator.source (fun _ => eighthScript) cottageKitchen ∧
      (∃ checks, cottage.sweep Generator.source (fun _ => eighthScript) = some (.ok checks) ∧
        checks.length = 7 ∧ ∀ check ∈ checks, check.passed = true) ∧
      (∃ opening, sample.run Generator.source (fun _ => eighthScript)
          (.ofWords ["planner", "--people", "3", "--verbose"]) (.scripted []) =
        some ⟨opening ++ "\n=== RESULT: 7/7 passed, 0 failed ===\n", 0⟩) ∧
      (∃ argument ∈ brokenArguments, ¬ argument.IsValidUTF8) ∧
      DishPlanner.run brokenArguments (.scripted []) = some ⟨"", 101⟩ := by
  have hplan : cottage.plan.WellFormed := ⟨by decide, by decide⟩
  have hsize : cottage.plan.tiles.size < memoryLimit := by decide
  have hkitchen : cottage.rooms.find? Rooms.kitchenKey = some cottageKitchen := rfl
  have hround : (cottage.drawRound Generator.source cottageKitchen
      (cottage.capacity cottageKitchen + 6) eighthScript).isSome := by decide +kernel
  have hevening : (sample.drawEvening Generator.source sampleKitchen
      (Options.ofWords ["planner", "--people", "3", "--verbose"]).people
      (.scripted [])).isSome := by decide +kernel
  have hsweep := sweep_flawless.1 Generator.source (fun _ => eighthScript) cottage
    cottageKitchen hplan hsize hkitchen fun _ _ => hround
  obtain ⟨opening, hopening⟩ := sweep_flawless.2.1 Generator.source (fun _ => eighthScript)
    ["planner", "--people", "3", "--verbose"] (.scripted [])
  rw [if_pos ⟨hevening, fun _ _ => isSome_drawRound_sample⟩] at hopening
  have hinvalid : ∃ argument ∈ brokenArguments, ¬ argument.IsValidUTF8 :=
    ⟨⟨#[0xff]⟩, List.mem_cons_self, by decide⟩
  exact ⟨hplan, hsize, hkitchen, fun _ _ => hround, hsweep.2, ⟨opening, hopening⟩, hinvalid,
    sweep_flawless.2.2.2 brokenArguments (.scripted []) hinvalid⟩

end DishPlanner

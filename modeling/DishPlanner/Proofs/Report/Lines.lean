import DishPlanner.Proofs.Floor.Drawing
import DishPlanner.Proofs.Report.Legible
import DishPlanner.Proofs.Roll.Holders

/-!
# The lines of a report

A report consists of ten lines of heading and a line for each pairing, and no
line breaks inside.  The lines are therefore found again in the text, the two
lists of persons in the heading determine the roll, and every further line
determines its pairing: a report tells exactly the roll and the pairings.
-/

namespace DishPlanner

/-! ## Texts and their lines -/

/-- The text consists of the lines: each of them is ended by a line feed, and
there is no other line feed. -/
structure HasLines (text : String) (lines : List String) : Prop where
  text_eq : text = String.join (lines.map (· ++ "\n"))
  unbroken : ∀ line ∈ lines, '\n' ∉ line.toList

namespace HasLines

variable {text : String} {lines : List String}

theorem toList_eq (htext : HasLines text lines) :
    text.toList = (lines.map String.toList).flatMap (· ++ ['\n']) := by
  rw [htext.text_eq, String.toList_join, List.flatMap_map, List.flatMap_map]
  congr 1
  funext line
  rw [String.toList_append]
  rfl

/-- The lines are found again in their text. -/
theorem cutLines_eq (htext : HasLines text lines) : FloorPlan.cutLines text = lines := by
  have hparts : ∀ part ∈ lines.map String.toList, '\n' ∉ part := by
    intro part hpart
    obtain ⟨line, hline, rfl⟩ := List.mem_map.mp hpart
    exact htext.unbroken line hline
  have hlines : String.ofList ∘ String.toList = id := funext fun line => String.ofList_toList
  calc FloorPlan.cutLines text
    _ = FloorPlan.cutLines (String.ofList ((lines.map String.toList).flatMap (· ++ ['\n']))) := by
      rw [← htext.toList_eq, String.ofList_toList]
    _ = lines := by rw [FloorPlan.cutLines_ofList hparts, List.map_map, hlines, List.map_id]

theorem unique {others : List String} (htext : HasLines text lines)
    (hothers : HasLines text others) : lines = others :=
  htext.cutLines_eq.symm.trans hothers.cutLines_eq

end HasLines

/-! ## The signs of a report -/

/-- Neither a line feed nor the letter that only the word for an unknown place
brings into a report. -/
def isPlain (c : Char) : Bool := c ≠ '\n' && c ≠ 'k'

theorem all_isPlain_toDigits (number : Nat) : (Nat.toDigits 10 number).all isPlain = true := by
  rw [List.all_eq_true]
  intro c hc
  have hdigit := Json.isDigit_of_mem_toDigits number hc
  have hfeed : c ≠ '\n' := fun hequal => absurd (hequal ▸ hdigit) (by decide)
  have hletter : c ≠ 'k' := fun hequal => absurd (hequal ▸ hdigit) (by decide)
  rw [isPlain, decide_eq_true hfeed, decide_eq_true hletter, Bool.true_and]

theorem all_isPlain_numbersBehind (numbers : List Nat) :
    (numbersBehind numbers).all isPlain = true := by
  induction numbers with
  | nil => rfl
  | cons number numbers ih =>
      rw [numbersBehind, List.all_cons, List.all_cons, List.all_append, ih,
        all_isPlain_toDigits]
      rfl

theorem all_isPlain_bracketed (numbers : List Nat) :
    (bracketed numbers).toList.all isPlain = true := by
  cases numbers with
  | nil => rfl
  | cons number numbers =>
      rw [toList_bracketed_cons, List.all_cons, List.all_append, all_isPlain_toDigits,
        all_isPlain_numbersBehind]
      rfl

theorem all_isPlain_text (position : Position) :
    position.text.toList.all isPlain = true := by
  simp only [Position.toList_text, List.all_cons, List.all_append, all_isPlain_toDigits]
  rfl

theorem all_isPlain_name (diet : Diet) : diet.name.toList.all isPlain = true := by
  cases diet with
  | vegan => rfl
  | nonVegetarian => rfl

/-- The line of the heading that counts persons and lists them. -/
def listing (lead : String) (count : Nat) (persons : List Nat) : String :=
  lead ++ toString count ++ " - " ++ bracketed persons

theorem Tally.heading_eq (tally : Tally) :
    tally.heading =
      [ "", reportRule, "DISH GENERATION AND DIETARY PREFERENCES SUMMARY", reportRule, "",
        "Total People: " ++ toString tally.people,
        listing "Vegan People: " tally.veganCount tally.vegans,
        listing "Non-Vegetarian People: " tally.nonVegetarianCount tally.nonVegetarians,
        "", "Person-Preference Mapping:" ] :=
  rfl

theorem Tally.length_heading (tally : Tally) : tally.heading.length = 10 := rfl

theorem toList_listing (lead : String) (count : Nat) (persons : List Nat) :
    (listing lead count persons).toList =
      lead.toList ++ (Nat.toDigits 10 count ++ (" - ".toList ++ (bracketed persons).toList)) := by
  simp only [listing, String.toList_append, toList_toString, List.append_assoc]

theorem all_isPlain_listing {lead : String} (hlead : lead.toList.all isPlain = true)
    (count : Nat) (persons : List Nat) :
    (listing lead count persons).toList.all isPlain = true := by
  simp only [toList_listing, List.all_append, hlead, all_isPlain_toDigits,
    all_isPlain_bracketed]
  rfl

theorem all_isPlain_heading (tally : Tally) :
    ∀ line ∈ tally.heading, line.toList.all isPlain = true := by
  have hsigns : reportRule.toList = List.replicate 60 '=' := String.toList_ofList
  have hrule : ∀ c ∈ reportRule.toList, isPlain c = true := by
    intro c hc
    rw [hsigns] at hc
    rw [(List.mem_replicate.mp hc).2]
    rfl
  rw [← List.all_eq_true] at hrule
  have htotal : ("Total People: " ++ toString tally.people).toList.all isPlain = true := by
    rw [String.toList_append, List.all_append, toList_toString, all_isPlain_toDigits]
    rfl
  simp only [Tally.heading_eq, List.forall_mem_cons]
  exact ⟨rfl, hrule, rfl, hrule, rfl, htotal, all_isPlain_listing rfl _ _,
    all_isPlain_listing rfl _ _, rfl, rfl, by simp⟩

/-- Only the place of its person brings other signs into the line of a pairing. -/
theorem Pairing.isPlain_of_mem_text {pairing : Pairing} {c : Char}
    (hc : c ∈ pairing.text.toList) (hplace : c ∉ (placeText pairing.place).toList) :
    isPlain c = true := by
  have hplain : ∀ {text : List Char}, text.all isPlain = true → c ∈ text → isPlain c = true :=
    fun htext => List.all_eq_true.mp htext c
  simp only [toList_text, List.mem_append, hplace, false_or] at hc
  rcases hc with hword | hperson | hword | hword | hdiet | hword | hdish
  · exact hplain rfl hword
  · exact hplain (all_isPlain_toDigits _) hperson
  · exact hplain rfl hword
  · exact hplain rfl hword
  · exact hplain (all_isPlain_name _) hdiet
  · exact hplain rfl hword
  · exact hplain (all_isPlain_text _) hdish

theorem Pairing.feed_not_mem_text (pairing : Pairing) : '\n' ∉ pairing.text.toList := by
  have hplace : '\n' ∉ (placeText pairing.place).toList := by
    cases pairing.place with
    | none => decide
    | some position =>
        intro hfeed
        exact absurd (List.all_eq_true.mp (all_isPlain_text position) _ hfeed) (by decide)
  intro hfeed
  exact absurd (isPlain_of_mem_text hfeed hplace) (by decide)

/-! ## What a report tells -/

/-- A report consists of its lines. -/
theorem hasLines_report (roll : Roll) (servings : List Serving) (people : List Position) :
    HasLines (report roll servings people) (reportLines roll servings people) where
  text_eq := rfl
  unbroken line hline := by
    rcases List.mem_append.mp hline with hheading | hpairing
    · intro hfeed
      have hplain := all_isPlain_heading _ line hheading
      exact absurd (List.all_eq_true.mp hplain _ hfeed) (by decide)
    · obtain ⟨pairing, -, rfl⟩ := List.mem_map.mp hpairing
      exact pairing.feed_not_mem_text

/-- A report in which every person has a place nowhere says that one is unknown. -/
theorem unknown_not_infix_report {roll : Roll} {servings : List Serving}
    {people : List Position}
    (hplaces : ∀ pairing ∈ pairings roll servings people, pairing.place ≠ none) :
    ¬ "Unknown".toList <:+: (report roll servings people).toList := by
  intro hword
  have hletter : 'k' ∈ (report roll servings people).toList := hword.subset (by decide)
  rw [(hasLines_report roll servings people).toList_eq, List.mem_flatMap] at hletter
  obtain ⟨part, hpart, hletter⟩ := hletter
  obtain ⟨line, hline, rfl⟩ := List.mem_map.mp hpart
  have hletter : 'k' ∈ line.toList := by simpa using hletter
  have hplain : isPlain 'k' = true := by
    rcases List.mem_append.mp hline with hheading | hlines
    · exact List.all_eq_true.mp (all_isPlain_heading _ line hheading) _ hletter
    · obtain ⟨pairing, hpairing, rfl⟩ := List.mem_map.mp hlines
      obtain ⟨position, hposition⟩ := Option.ne_none_iff_exists'.mp (hplaces pairing hpairing)
      apply Pairing.isPlain_of_mem_text hletter
      rw [hposition]
      intro hmem
      exact absurd (List.all_eq_true.mp (all_isPlain_text position) _ hmem) (by decide)
  exact absurd hplain (by decide)

/-- The persons that are listed are read behind their number. -/
theorem listing_inj {lead : String} {leftCount rightCount : Nat} {left right : List Nat}
    (hlisting : listing lead leftCount left = listing lead rightCount right) :
    left = right := by
  have htext := congrArg String.toList hlisting
  rw [toList_listing, toList_listing] at htext
  obtain ⟨-, hbehind⟩ := toDigits_append_inj (endsNumber_blank rfl _) (endsNumber_blank rfl _)
    (List.append_cancel_left htext)
  exact legible_bracketed.injective (String.toList_inj.mp (List.append_cancel_left hbehind))

/-- The heading determines the roll, since it lists the holders of both diets. -/
theorem eq_of_heading_eq {left right : Roll} {leftServings rightServings : List Serving}
    (hheading : (Tally.of left leftServings).heading =
      (Tally.of right rightServings).heading) : left = right := by
  simp only [Tally.heading_eq, List.cons.injEq, true_and, and_true] at hheading
  obtain ⟨-, hvegans, hothers⟩ := hheading
  apply Roll.eq_of_holders_eq
  intro diet
  cases diet with
  | vegan => exact listing_inj hvegans
  | nonVegetarian => exact listing_inj hothers

/-- The heading shows nothing of the dishes. -/
theorem heading_of_congr (roll : Roll) (servings others : List Serving) :
    (Tally.of roll servings).heading = (Tally.of roll others).heading := rfl

theorem reportLines_eq_iff {roll other : Roll} {servings others : List Serving}
    {people crowd : List Position} :
    reportLines roll servings people = reportLines other others crowd ↔
      roll = other ∧ pairings roll servings people = pairings other others crowd := by
  constructor
  · intro hlines
    have hlength : (Tally.of roll servings).heading.length =
        (Tally.of other others).heading.length := by
      rw [Tally.length_heading, Tally.length_heading]
    obtain ⟨hheading, htexts⟩ := List.append_inj hlines hlength
    refine ⟨eq_of_heading_eq hheading, ?_⟩
    exact List.map_injective_iff.mpr Pairing.legible_text.injective htexts
  · rintro ⟨rfl, hpairings⟩
    rw [reportLines, reportLines, hpairings, heading_of_congr roll servings others]

/-- A report tells exactly its roll and its pairings: two reports are the same
text if and only if they have these in common.  Each is ten lines of heading and
then one line for each pairing. -/
theorem report_tells (roll : Roll) (servings : List Serving) (people : List Position) :
    (∀ (other : Roll) (others : List Serving) (crowd : List Position),
      report roll servings people = report other others crowd ↔
        roll = other ∧ pairings roll servings people = pairings other others crowd) ∧
    (Tally.of roll servings).heading.length = 10 ∧
    HasLines (report roll servings people)
      ((Tally.of roll servings).heading ++
        (pairings roll servings people).map Pairing.text) := by
  refine ⟨fun other others crowd => ?_, Tally.length_heading _,
    hasLines_report roll servings people⟩
  rw [← reportLines_eq_iff]
  constructor
  · intro hreport
    have hlines := hasLines_report roll servings people
    rw [hreport] at hlines
    exact hlines.unique (hasLines_report other others crowd)
  · intro hlines
    rw [report, report, hlines]

end DishPlanner

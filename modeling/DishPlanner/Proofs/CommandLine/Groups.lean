import Mathlib.Data.Option.Basic
import DishPlanner.CommandLine.Options

/-!
# Command lines in groups

Behind the name of the program a command line consists of groups: a flag with the word that is
its value, a switch, or a stray word.  The options are looked up in the flat list of words,
where nothing tells a value from a flag.  As long as no freely chosen word is itself a flag,
this does no harm: a flag stands in its own groups only, and the word behind it is its
value.  The order of the groups, stray words and repeated switches then mean nothing.
-/

namespace DishPlanner

namespace Options

/-! ## Words that write numbers -/

/-- A word writes a number of 64 bits: decimal digits, with or without a plus sign. -/
def Writes (word : String) (number : Nat) : Prop :=
  number < wordCount ∧ ∃ digits, (word.toList = digits ∨ word.toList = '+' :: digits) ∧
    digits ≠ [] ∧ (∀ digit ∈ digits, digit.isDigit = true) ∧
    Nat.ofDigitChars 10 digits 0 = number

theorem digitsValue?_eq_some_iff {digits : List Char} {number : Nat} :
    digitsValue? digits = some number ↔
      digits ≠ [] ∧ (∀ digit ∈ digits, digit.isDigit = true) ∧
        Nat.ofDigitChars 10 digits 0 = number := by
  have hvalue : digits.foldl (fun value digit => value * 10 + (digit.toNat - '0'.toNat)) 0 =
      Nat.ofDigitChars 10 digits 0 := by
    simp only [Nat.ofDigitChars, Nat.mul_comm]
  rw [digitsValue?, hvalue]
  by_cases hdigits : (digits.isEmpty || !digits.all Char.isDigit) = true
  · rw [if_pos hdigits]
    simp only [Bool.or_eq_true, List.isEmpty_iff, Bool.not_eq_true', List.all_eq_false] at hdigits
    refine iff_of_false (by simp) ?_
    rintro ⟨hnonempty, hall, -⟩
    rcases hdigits with hempty | ⟨digit, hdigit, hother⟩
    · exact hnonempty hempty
    · exact hother (hall digit hdigit)
  · rw [if_neg hdigits, Option.some.injEq]
    simp only [Bool.or_eq_true, List.isEmpty_iff, Bool.not_eq_true', not_or,
      Bool.not_eq_false, List.all_eq_true] at hdigits
    exact ⟨fun h => ⟨hdigits.1, hdigits.2, h⟩, fun h => h.2.2⟩

theorem wordValue?_eq_some_iff {word : String} {number : Nat} :
    wordValue? word = some number ↔ Writes word number := by
  rw [wordValue?, Option.filter_eq_some_iff, Writes, decide_eq_true_eq, and_comm]
  refine and_congr_right fun _ => ?_
  split
  next digits hword =>
    -- No digit is a plus sign, so only what stands behind it can be the digits.
    rw [hword, digitsValue?_eq_some_iff]
    constructor
    · intro hdigits
      exact ⟨digits, .inr rfl, hdigits⟩
    · rintro ⟨other, rfl | hequal, hother⟩
      · exact absurd (hother.2.1 '+' List.mem_cons_self) (by decide)
      · obtain ⟨-, rfl⟩ := List.cons.inj hequal
        exact hother
  next hplain =>
    rw [digitsValue?_eq_some_iff]
    constructor
    · intro hdigits
      exact ⟨_, .inl rfl, hdigits⟩
    · rintro ⟨digits, rfl | hplus, hdigits⟩
      · exact hdigits
      · exact absurd hplus (hplain digits)

/-! ## Groups of words -/

/-- A flag that takes the word behind it. -/
inductive ValueFlag where
  | seed
  | people
deriving DecidableEq, Repr

/-- The word of a flag. -/
def ValueFlag.text : ValueFlag → String
  | .seed => "--seed"
  | .people => "--people"

/-- A flag that stands alone. -/
inductive Switch where
  | verbose
  | json
deriving DecidableEq, Repr

/-- The word of a switch. -/
def Switch.text : Switch → String
  | .verbose => "--verbose"
  | .json => "--json"

/-- The words with a meaning. -/
def flags : List String := ["--seed", "--people", "--verbose", "--json"]

theorem ValueFlag.text_mem_flags (flag : ValueFlag) : flag.text ∈ flags := by
  cases flag <;> decide

theorem Switch.text_mem_flags (switch : Switch) : switch.text ∈ flags := by
  cases switch <;> decide

theorem ValueFlag.text_injective : Function.Injective ValueFlag.text := by
  intro left right htext
  cases left <;> cases right <;> simp [text] at htext ⊢

theorem Switch.text_injective : Function.Injective Switch.text := by
  intro left right htext
  cases left <;> cases right <;> simp [text] at htext ⊢

theorem ValueFlag.text_ne_text (flag : ValueFlag) (switch : Switch) :
    flag.text ≠ switch.text := by
  cases flag <;> cases switch <;> decide

/-- Words of a command line that belong together. -/
inductive Group where
  | value (flag : ValueFlag) (word : String)
  | alone (switch : Switch)
  | stray (word : String)
deriving DecidableEq, Repr

namespace Group

/-- The words of a group in their order. -/
def words : Group → List String
  | .value flag word => [flag.text, word]
  | .alone switch => [switch.text]
  | .stray word => [word]

/-- The word of a group that is freely chosen. -/
def chosen? : Group → Option String
  | .value _ word => some word
  | .alone _ => none
  | .stray word => some word

/-- The value that a group gives a flag. -/
def valueFor? (flag : ValueFlag) : Group → Option String
  | .value other word => if other = flag then some word else none
  | _ => none

/-- The chosen word of a group is no flag. -/
def Plain (group : Group) : Prop := ∀ word ∈ group.chosen?, word ∉ flags

instance (group : Group) : Decidable group.Plain :=
  inferInstanceAs (Decidable (∀ word ∈ group.chosen?, word ∉ flags))

variable {group : Group} {flag : ValueFlag} {switch : Switch} {word : String}

theorem plain_alone (switch : Switch) : (alone switch).Plain := by
  intro word hword
  cases hword

theorem plain_stray (hword : word ∉ flags) : (stray word).Plain := by
  rintro _ ⟨rfl⟩
  exact hword

theorem valueFor?_eq_some_iff : group.valueFor? flag = some word ↔ group = .value flag word := by
  cases group with
  | value other given =>
      by_cases hother : other = flag
      · simp [valueFor?, hother]
      · simp [valueFor?, hother]
  | alone switch => simp [valueFor?]
  | stray given => simp [valueFor?]

/-- A flag in the words of a plain group is never the chosen one. -/
theorem Plain.ne_of_mem_chosen? (hplain : group.Plain) (hword : word ∈ group.chosen?)
    {text : String} (htext : text ∈ flags) : text ≠ word := by
  rintro rfl
  exact hplain text hword htext

theorem Plain.flag_mem_words (hplain : group.Plain) (hmem : flag.text ∈ group.words) :
    ∃ word, group = .value flag word := by
  cases group with
  | value other given =>
      have hgiven := hplain.ne_of_mem_chosen? rfl flag.text_mem_flags
      have htext : flag.text = other.text := by simpa [words, hgiven] using hmem
      exact ⟨given, by rw [ValueFlag.text_injective htext]⟩
  | alone switch => exact absurd (List.mem_singleton.mp hmem) (flag.text_ne_text switch)
  | stray given =>
      exact absurd (List.mem_singleton.mp hmem)
        (hplain.ne_of_mem_chosen? rfl flag.text_mem_flags)

theorem Plain.switch_mem_words_iff (hplain : group.Plain) :
    switch.text ∈ group.words ↔ group = .alone switch := by
  constructor
  · intro hmem
    cases group with
    | value flag given =>
        have hgiven := hplain.ne_of_mem_chosen? rfl switch.text_mem_flags
        have htext : switch.text = flag.text := by simpa [words, hgiven] using hmem
        exact absurd htext.symm (flag.text_ne_text switch)
    | alone other =>
        rw [Switch.text_injective (List.mem_singleton.mp hmem)]
    | stray given =>
        exact absurd (List.mem_singleton.mp hmem)
          (hplain.ne_of_mem_chosen? rfl switch.text_mem_flags)
  · rintro rfl
    exact List.mem_singleton_self _

end Group

/-! ## Looking values up in words -/

theorem valueOf?_append {flag : String} {before : List String} (hbefore : flag ∉ before)
    (rest : List String) : valueOf? flag (before ++ rest) = valueOf? flag rest := by
  have hskipped : ∀ word ∈ before, (decide (word ≠ flag)) = true := by
    intro word hword
    rw [decide_eq_true_eq]
    rintro rfl
    exact hbefore hword
  rw [valueOf?, valueOf?, List.dropWhile_append_of_pos hskipped]

theorem valueOf?_cons_cons_self (flag value : String) (rest : List String) :
    valueOf? flag (flag :: value :: rest) = wordValue? value := by
  rw [valueOf?, List.dropWhile_cons_of_neg (by simp)]

/-- The words of groups, one group after the other. -/
def spell (groups : List Group) : List String := groups.flatMap Group.words

theorem spell_cons (group : Group) (groups : List Group) :
    spell (group :: groups) = group.words ++ spell groups := rfl

/-- In plain groups a flag has the value of its first group. -/
theorem valueOf?_spell {groups : List Group} (hplain : ∀ group ∈ groups, group.Plain)
    (flag : ValueFlag) :
    valueOf? flag.text (spell groups) =
      (groups.findSome? (Group.valueFor? flag)).bind wordValue? := by
  induction groups with
  | nil => rfl
  | cons group groups ih =>
      obtain ⟨hgroup, hgroups⟩ := List.forall_mem_cons.mp hplain
      rw [spell_cons, List.findSome?_cons]
      cases hvalue : group.valueFor? flag with
      | some word =>
          obtain rfl := Group.valueFor?_eq_some_iff.mp hvalue
          exact valueOf?_cons_cons_self flag.text word _
      | none =>
          have hother : flag.text ∉ group.words := by
            intro hmem
            obtain ⟨word, rfl⟩ := hgroup.flag_mem_words hmem
            rw [Group.valueFor?_eq_some_iff.mpr rfl] at hvalue
            cases hvalue
          rw [valueOf?_append hother]
          exact ih hgroups

theorem switch_mem_spell_iff {groups : List Group} (hplain : ∀ group ∈ groups, group.Plain)
    (switch : Switch) : switch.text ∈ spell groups ↔ .alone switch ∈ groups := by
  rw [spell, List.mem_flatMap]
  constructor
  · rintro ⟨group, hgroup, hmem⟩
    rwa [← (hplain group hgroup).switch_mem_words_iff.mp hmem]
  · intro hgroup
    exact ⟨_, hgroup, List.mem_singleton_self _⟩

/-! ## What groups ask for -/

/-- No chosen word is a flag, and no flag is given a value twice. -/
structure Orderly (groups : List Group) : Prop where
  plain : ∀ group ∈ groups, group.Plain
  once : ∀ flag, (groups.countP fun group => (group.valueFor? flag).isSome) ≤ 1

/-- What the groups give a flag: the number that its word writes.  There is none if no
group has the flag or if the word writes no number. -/
def Gives (groups : List Group) (flag : ValueFlag) (number? : Option Nat) : Prop :=
  ∀ number, number? = some number ↔
    ∃ word, .value flag word ∈ groups ∧ Writes word number

/-- What groups ask for, whatever their order. -/
structure AskedBy (options : Options) (groups : List Group) : Prop where
  seed : Gives groups .seed (options.seed.map UInt64.toNat)
  people : ∃ people?, Gives groups .people people? ∧ options.people = people?.getD 8
  verbose : options.verbose = true ↔ .alone .verbose ∈ groups
  json : options.json = true ↔ .alone .json ∈ groups

variable {groups left right : List Group}

/-- A value that is given once at most is found wherever it stands. -/
theorem Orderly.findSome?_eq_some_iff (hgroups : Orderly groups) {flag : ValueFlag}
    {word : String} :
    groups.findSome? (Group.valueFor? flag) = some word ↔ .value flag word ∈ groups := by
  constructor
  · intro hfound
    obtain ⟨group, hgroup, hvalue⟩ := List.exists_of_findSome?_eq_some hfound
    rwa [← Group.valueFor?_eq_some_iff.mp hvalue]
  · intro hmem
    have hvalue : (Group.value flag word).valueFor? flag = some word :=
      Group.valueFor?_eq_some_iff.mpr rfl
    obtain ⟨before, after, rfl⟩ := List.append_of_mem hmem
    have honce := hgroups.once flag
    rw [List.countP_append, List.countP_cons, hvalue] at honce
    have hbefore : (before.countP fun group => (group.valueFor? flag).isSome) = 0 := by
      simp only [Option.isSome_some, if_true] at honce
      omega
    rw [List.findSome?_append, List.findSome?_eq_none_iff.mpr, List.findSome?_cons, hvalue]
    · rfl
    · intro group hgroup
      simpa using List.countP_eq_zero.mp hbefore group hgroup

theorem Orderly.gives_valueOf? (hgroups : Orderly groups) (flag : ValueFlag) :
    Gives groups flag (valueOf? flag.text (spell groups)) := by
  intro number
  simp only [valueOf?_spell hgroups.plain, Option.bind_eq_some_iff,
    hgroups.findSome?_eq_some_iff, wordValue?_eq_some_iff]

/-- The values of flags are words, so a seed keeps the number that was written. -/
theorem Gives.map_toNat {flag : ValueFlag} {number? : Option Nat}
    (hgives : Gives groups flag number?) :
    (number?.map UInt64.ofNat).map UInt64.toNat = number? := by
  cases number? with
  | none => rfl
  | some number =>
      obtain ⟨word, -, hfits, -⟩ := (hgives number).mp rfl
      rw [Option.map_some, Option.map_some, UInt64.toNat_ofNat_of_lt' hfits]

/-- The options that the words of orderly groups give are those that the groups ask for. -/
theorem Orderly.askedBy (hgroups : Orderly groups) : (ofWords (spell groups)).AskedBy groups where
  seed := by
    have hseed := hgroups.gives_valueOf? .seed
    rwa [← hseed.map_toNat] at hseed
  people := ⟨_, hgroups.gives_valueOf? .people, rfl⟩
  verbose := List.contains_iff_mem.trans (switch_mem_spell_iff hgroups.plain .verbose)
  json := List.contains_iff_mem.trans (switch_mem_spell_iff hgroups.plain .json)

theorem Gives.unique {flag : ValueFlag} {first? second? : Option Nat}
    (hfirst : Gives groups flag first?) (hsecond : Gives groups flag second?) :
    first? = second? :=
  Option.ext fun number => (hfirst number).trans (hsecond number).symm

/-- No two options are asked for by the same groups. -/
theorem AskedBy.unique {first second : Options} (hfirst : first.AskedBy groups)
    (hsecond : second.AskedBy groups) : first = second := by
  obtain ⟨firstPeople?, hfirstPeople, hfirstEq⟩ := hfirst.people
  obtain ⟨secondPeople?, hsecondPeople, hsecondEq⟩ := hsecond.people
  have hseed : first.seed = second.seed :=
    Option.map_injective (fun _ _ => UInt64.toNat_inj.mp) (hfirst.seed.unique hsecond.seed)
  have hpeople : first.people = second.people := by
    rw [hfirstEq, hsecondEq, hfirstPeople.unique hsecondPeople]
  have hverbose : first.verbose = second.verbose := by
    rw [Bool.eq_iff_iff, hfirst.verbose, hsecond.verbose]
  have hjson : first.json = second.json := by
    rw [Bool.eq_iff_iff, hfirst.json, hsecond.json]
  calc first
    _ = ⟨first.seed, first.people, first.verbose, first.json⟩ := rfl
    _ = ⟨second.seed, second.people, second.verbose, second.json⟩ := by
      rw [hseed, hpeople, hverbose, hjson]
    _ = second := rfl

/-! ## Rearranging groups -/

/-- The right groups are the left ones in some order, with or without some stray words and
repeated switches. -/
inductive Rearranged : List Group → List Group → Prop where
  | order {left right : List Group} (horder : left.Perm right) : Rearranged left right
  | stray {word : String} (hword : word ∉ flags) (groups : List Group) :
      Rearranged groups (.stray word :: groups)
  | again {switch : Switch} {groups : List Group} (hswitch : .alone switch ∈ groups) :
      Rearranged groups (.alone switch :: groups)
  | symm {left right : List Group} (hback : Rearranged left right) : Rearranged right left
  | trans {left middle right : List Group} (hfirst : Rearranged left middle)
      (hsecond : Rearranged middle right) : Rearranged left right

theorem Orderly.of_perm (hleft : Orderly left) (horder : left.Perm right) : Orderly right where
  plain group hgroup := hleft.plain group (horder.mem_iff.mpr hgroup)
  once flag := horder.countP_eq _ ▸ hleft.once flag

theorem orderly_cons_iff {group : Group} (hplain : group.Plain)
    (hvalue : ∀ flag, group.valueFor? flag = none) :
    Orderly (group :: groups) ↔ Orderly groups := by
  have hcount : ∀ flag, (group :: groups).countP (fun group => (group.valueFor? flag).isSome) =
      groups.countP fun group => (group.valueFor? flag).isSome := by
    intro flag
    rw [List.countP_cons_of_neg]
    rw [hvalue]
    exact Bool.false_ne_true
  constructor
  · intro hgroups
    exact ⟨(List.forall_mem_cons.mp hgroups.plain).2, fun flag => hcount flag ▸ hgroups.once flag⟩
  · intro hgroups
    exact ⟨List.forall_mem_cons.mpr ⟨hplain, hgroups.plain⟩,
      fun flag => (hcount flag).symm ▸ hgroups.once flag⟩

theorem Rearranged.orderly_iff (hright : Rearranged left right) :
    Orderly left ↔ Orderly right := by
  induction hright with
  | order horder => exact ⟨fun h => h.of_perm horder, fun h => h.of_perm horder.symm⟩
  | stray hword groups => exact (orderly_cons_iff (Group.plain_stray hword) fun _ => rfl).symm
  | again hswitch => exact (orderly_cons_iff (Group.plain_alone _) fun _ => rfl).symm
  | symm _ ih => exact ih.symm
  | trans _ _ hfirst hsecond => exact hfirst.trans hsecond

theorem Rearranged.mem_iff (hright : Rearranged left right) {group : Group}
    (hgroup : ∀ word, group ≠ .stray word) : group ∈ left ↔ group ∈ right := by
  induction hright with
  | order horder => exact horder.mem_iff
  | stray hword groups => rw [List.mem_cons, or_iff_right (hgroup _)]
  | again hswitch =>
      rw [List.mem_cons]
      constructor
      · exact .inr
      · rintro (rfl | hmem)
        · exact hswitch
        · exact hmem
  | symm _ ih => exact ih.symm
  | trans _ _ hfirst hsecond => exact hfirst.trans hsecond

/-- What groups ask for depends on the flags and switches among them alone. -/
theorem Rearranged.askedBy (hright : Rearranged left right) {options : Options}
    (hleft : options.AskedBy left) : options.AskedBy right := by
  have hvalue : ∀ flag word, .value flag word ∈ left ↔ .value flag word ∈ right :=
    fun flag word => hright.mem_iff fun _ => nofun
  have hswitch : ∀ switch, .alone switch ∈ left ↔ .alone switch ∈ right :=
    fun switch => hright.mem_iff fun _ => nofun
  obtain ⟨hseed, hpeople, hverbose, hjson⟩ := hleft
  simp only [Gives, hvalue, hswitch] at hseed hpeople hverbose hjson
  exact ⟨hseed, hpeople, hverbose, hjson⟩

theorem Rearranged.ofWords_eq (hright : Rearranged left right) (hleft : Orderly left) :
    ofWords (spell right) = ofWords (spell left) :=
  (hright.orderly_iff.mp hleft).askedBy.unique (hright.askedBy hleft.askedBy)

/-- The options of an orderly command line are those that its groups ask for, and they stay
the same when the groups are rearranged.  The name of the program is one more stray word. -/
theorem ofWords_rearranged {program : String} (hprogram : program ∉ flags)
    (hgroups : Orderly groups) :
    (ofWords (program :: spell groups)).AskedBy groups ∧
      ∀ others, Rearranged groups others → Orderly others ∧
        ofWords (program :: spell others) = ofWords (program :: spell groups) ∧
        ofWords (spell others) = ofWords (program :: spell groups) := by
  have hnamed : ∀ others, Orderly others →
      ofWords (program :: spell others) = ofWords (spell others) :=
    fun others => (Rearranged.stray hprogram others).ofWords_eq
  rw [hnamed groups hgroups]
  refine ⟨hgroups.askedBy, fun others hothers => ?_⟩
  have horderly := hothers.orderly_iff.mp hgroups
  rw [hnamed others horderly]
  exact ⟨horderly, hothers.ofWords_eq hgroups, hothers.ofWords_eq hgroups⟩

/-- A line with a seed, three people and a stray word. -/
def evenGroups : List Group :=
  [.stray "now", .value .people "+3", .alone .json, .value .seed "18446744073709551615"]

/-- The same in another order, with another stray word and the switch said twice. -/
def oddGroups : List Group :=
  [.stray "--", .alone .json, .value .seed "18446744073709551615", .alone .json,
    .value .people "+3"]

theorem ofWords_rearranged_even :
    "planner" ∉ flags ∧ Orderly evenGroups ∧ Rearranged evenGroups oddGroups ∧
      ofWords ("planner" :: spell oddGroups) = ofWords ("planner" :: spell evenGroups) ∧
      ofWords (spell oddGroups) = ofWords ("planner" :: spell evenGroups) ∧
      (ofWords ("planner" :: spell evenGroups)).AskedBy evenGroups ∧
      spell oddGroups = ["--", "--json", "--seed", "18446744073709551615", "--json", "--people",
        "+3"] ∧
      ofWords ("planner" :: spell oddGroups) = ⟨some 18446744073709551615, 3, false, true⟩ := by
  have hprogram : "planner" ∉ flags := by decide
  have hgroups : Orderly evenGroups := ⟨by decide, fun flag => by cases flag <;> decide⟩
  have hothers : Rearranged evenGroups oddGroups := by
    have hnow : "now" ∉ flags := by decide
    have hdashes : "--" ∉ flags := by decide
    have hremoved : Rearranged evenGroups evenGroups.tail := .symm (.stray hnow _)
    have hrepeated : Rearranged evenGroups.tail (.alone .json :: evenGroups.tail) :=
      .again (by decide)
    have hinserted := Rearranged.stray hdashes (.alone .json :: evenGroups.tail)
    exact hremoved.trans (hrepeated.trans (hinserted.trans (.order (by decide))))
  obtain ⟨hasked, hsame⟩ := ofWords_rearranged hprogram hgroups
  obtain ⟨-, hnamed, hbare⟩ := hsame _ hothers
  exact ⟨hprogram, hgroups, hothers, hnamed, hbare, hasked, rfl, by decide⟩

end Options

end DishPlanner

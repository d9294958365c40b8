import DishPlanner.Proofs.Roll.Choices

/-!
# The coins of a roll

A roll takes one word for each person who chooses, in the order of the persons,
and leaves the source right behind the last of them.  Only the person behind the
free half can be obliged to take a diet, namely when all persons before agree,
so the number of words is the number of persons or one less.
-/

namespace DishPlanner

variable {σ : Type}

/-- The next long words of a source, and the state right behind the last of them. -/
def Source.longWords (source : Source σ) : (count : Nat) → (state : σ) → List UInt64 × σ
  | 0, state => ([], state)
  | count + 1, state =>
      let (word, next) := source.next64 state
      let (words, rest) := source.longWords count next
      (word :: words, rest)

/-- The diet of a word: the lower half of the words are vegan. -/
def Diet.ofWord (word : UInt64) : Diet :=
  if word < 0x8000000000000000 then .vegan else .nonVegetarian

theorem Diet.draw_eq (source : Source σ) (state : σ) :
    Diet.draw source state =
      some (Diet.ofWord (source.next64 state).1, (source.next64 state).2) := by
  have hdrawn : Diet.draw source state =
      some (ofCoin (decide ((source.next64 state).1 < 0x8000000000000000)),
        (source.next64 state).2) := rfl
  rw [hdrawn, ofCoin, ofWord]
  simp only [decide_eq_true_eq]

/-- Tossing diets is reading one word for each of them. -/
theorem Diet.Tossed.exists_words {source : Source σ} {diets : List Diet} {state rest : σ}
    (htossed : Tossed source diets state rest) :
    ∃ words : List UInt64, source.longWords words.length state = (words, rest) ∧
      words.map Diet.ofWord = diets := by
  induction diets generalizing state with
  | nil =>
      cases htossed
      exact ⟨[], rfl, rfl⟩
  | cons diet diets ih =>
      obtain ⟨middle, hdraw, hlater⟩ := htossed
      rw [Diet.draw_eq] at hdraw
      obtain ⟨rfl, rfl⟩ := Prod.mk.inj (Option.some.inj hdraw)
      obtain ⟨words, hwords, rfl⟩ := ih hlater
      refine ⟨(source.next64 state).1 :: words, ?_, rfl⟩
      simp only [List.length_cons, Source.longWords, hwords]

namespace Roll

variable {free : Nat} {given diets : List Diet}

/-! ## Who has to take a diet -/

theorem requiredAfter_perm {other : List Diet} (hperm : given.Perm other) (free : Nat) :
    requiredAfter free given = requiredAfter free other := by
  rw [requiredAfter, requiredAfter, hperm.count_eq, hperm.count_eq]

/-- Nobody has to take a diet that somebody holds. -/
theorem not_mem_of_requiredAfter {diet : Diet}
    (hneeded : requiredAfter free given = some diet) : diet ∉ given := by
  rw [requiredAfter, required] at hneeded
  split at hneeded
  · cases hneeded
  · split at hneeded
    next hvegans =>
      obtain rfl := Option.some.inj hneeded
      exact List.count_eq_zero.mp hvegans
    next =>
      split at hneeded
      next hothers =>
        obtain rfl := Option.some.inj hneeded
        exact List.count_eq_zero.mp hothers
      next => cases hneeded

/-- Whoever has to take a diet holds it. -/
theorem Allowed.eq_of_requiredAfter (hallowed : Allowed free given diets) {place : Nat}
    {diet needed : Diet} (hdiet : diets[place]? = some diet)
    (hneeded : requiredAfter free (given ++ diets.take place) = some needed) :
    diet = needed := by
  induction diets generalizing given place with
  | nil => simp at hdiet
  | cons first diets ih =>
      cases place with
      | zero =>
          obtain rfl := Option.some.inj hdiet
          rw [List.take_zero, List.append_nil] at hneeded
          exact hallowed.1 needed hneeded
      | succ place =>
          rw [List.take_succ_cons, requiredAfter_perm List.perm_middle] at hneeded
          exact ih hallowed.2 hdiet hneeded

/-- Only the person behind the free half can have to take a diet: before nobody
has to, and afterwards both diets are held. -/
theorem Allowed.place_eq (hallowed : Allowed (diets.length / 2) [] diets) {place : Nat}
    (hplace : place < diets.length) {needed : Diet}
    (hneeded : requiredAfter (diets.length / 2) (diets.take place) = some needed) :
    place = diets.length / 2 := by
  rcases Nat.lt_trichotomy place (diets.length / 2) with hbefore | hequal | hbehind
  · rw [requiredAfter_of_length_lt (by rw [List.length_take]; omega)] at hneeded
    cases hneeded
  · exact hequal
  · have hheld := (allowed_half_iff (by omega)).mp hallowed
    have hboth : ∀ diet, diet ∈ diets.take place := fun diet =>
      List.take_subset_take_left diets hbehind (hheld diet)
    rw [requiredAfter_of_forall_mem _ hboth] at hneeded
    cases hneeded

/-! ## Who chooses -/

/-- The chosen diets are those of the persons who do not have to take one. -/
theorem chosen_eq_filter (free start : Nat) (given diets : List Diet) :
    chosen free given diets =
      (((List.range' start diets.length).zip diets).filter fun entry =>
        (requiredAfter free (given ++ diets.take (entry.1 - start))).isNone).map Prod.snd := by
  induction diets generalizing start given with
  | nil => rfl
  | cons diet diets ih =>
      -- Seen from the second person on, the first one is among those before.
      have hlater : (((List.range' (start + 1) diets.length).zip diets).filter fun entry =>
            (requiredAfter free (given ++ (diet :: diets).take (entry.1 - start))).isNone) =
          ((List.range' (start + 1) diets.length).zip diets).filter fun entry =>
            (requiredAfter free ((diet :: given) ++
              diets.take (entry.1 - (start + 1)))).isNone := by
        apply List.filter_congr
        rintro ⟨person, later⟩ hentry
        have hperson := (List.mem_range'_1.mp (List.of_mem_zip hentry).1).1
        have hplace : person - start = person - (start + 1) + 1 := by omega
        rw [hplace, List.take_succ_cons, requiredAfter_perm List.perm_middle]
        rfl
      rw [chosen, List.length_cons, List.range'_succ, List.zip_cons_cons, List.filter_cons,
        hlater, Nat.sub_self, List.take_zero, List.append_nil, ih (start + 1)]
      cases requiredAfter free given with
      | none => rfl
      | some needed => rfl

theorem chosen_of_forall_mem (free : Nat) (hboth : ∀ diet, diet ∈ given) (diets : List Diet) :
    chosen free given diets = diets := by
  induction diets generalizing given with
  | nil => rfl
  | cons diet diets ih =>
      rw [chosen, requiredAfter_of_forall_mem free hboth]
      exact congrArg _ (ih fun other => List.mem_cons_of_mem _ (hboth other))

/-- The free half chooses. -/
theorem chosen_append (first later : List Diet) (hfree : given.length + first.length ≤ free) :
    chosen free given (first ++ later) = first ++ chosen free (first.reverse ++ given) later := by
  induction first generalizing given with
  | nil => rfl
  | cons diet first ih =>
      rw [List.length_cons] at hfree
      rw [List.cons_append, chosen, requiredAfter_of_length_lt (by omega),
        ih (by rw [List.length_cons]; omega), List.reverse_cons, List.append_assoc]
      rfl

/-- When the free persons hold both diets, everybody chooses. -/
theorem chosen_of_held {first : List Diet} (hfree : first.length = free)
    (hboth : ∀ diet, diet ∈ first) (later : List Diet) :
    chosen free [] (first ++ later) = first ++ later := by
  have hreverse : ∀ diet, diet ∈ first.reverse ++ [] := by simpa using hboth
  rw [chosen_append first later (by rw [List.length_nil]; omega),
    chosen_of_forall_mem free hreverse]

/-- When the free persons miss a diet, the next person takes it and everybody else chooses. -/
theorem chosen_of_missing {first : List Diet} {diet missing : Diet} (hpositive : 0 < free)
    (hfree : first.length = free) (hmissing : missing ∉ first)
    (hheld : ∀ other, other ∈ first ++ [diet]) (later : List Diet) :
    chosen free [] (first ++ diet :: later) = first ++ later := by
  have hneeded : requiredAfter free (first.reverse ++ []) = some missing := by
    apply requiredAfter_of_not_mem hpositive
    · rw [List.append_nil, List.length_reverse]
      omega
    · simpa using hmissing
  have hreverse : ∀ other, other ∈ diet :: (first.reverse ++ []) := by
    simpa [or_comm] using hheld
  rw [chosen_append first _ (by rw [List.length_nil]; omega), chosen, hneeded]
  exact congrArg _ (chosen_of_forall_mem free hreverse later)

/-- Everybody chooses, or everybody but one person when the free half misses a diet. -/
theorem length_chosen_half (hpersons : 2 ≤ diets.length)
    (hallowed : Allowed (diets.length / 2) [] diets) :
    ((∀ diet, diet ∈ diets.take (diets.length / 2)) →
        (chosen (diets.length / 2) [] diets).length = diets.length) ∧
      ∀ missing, missing ∉ diets.take (diets.length / 2) →
        (chosen (diets.length / 2) [] diets).length = diets.length - 1 := by
  have hhalf : diets.length / 2 < diets.length := by omega
  have hfree : (diets.take (diets.length / 2)).length = diets.length / 2 := by
    rw [List.length_take]
    omega
  constructor
  · intro hboth
    have hchosen := chosen_of_held hfree hboth (diets.drop (diets.length / 2))
    rw [List.take_append_drop] at hchosen
    rw [hchosen]
  · intro missing hmissing
    have hheld := (allowed_half_iff hpersons).mp hallowed
    rw [List.take_succ_eq_append_getElem hhalf] at hheld
    have hchosen := chosen_of_missing (by omega) hfree hmissing hheld
      (diets.drop (diets.length / 2 + 1))
    rw [← List.drop_eq_getElem_cons hhalf, List.take_append_drop] at hchosen
    rw [hchosen, List.length_append, hfree, List.length_drop]
    omega

/-! ## Rolls -/

/-- The diet that a person of a roll had to take, if any, behind the persons before. -/
def obliged (roll : Roll) (person : Nat) : Option Diet :=
  requiredAfter (roll.size / 2) (roll.values.take (person - 1))

/-- The diets of the persons who did not have to take theirs. -/
def freeDiets (roll : Roll) : List Diet :=
  (roll.entries.filter fun entry => (roll.obliged entry.1).isNone).map Prod.snd

/-- The first persons hold one and the same diet. -/
def Agree (roll : Roll) (first : Nat) : Prop :=
  ∀ person ∈ List.range' 1 first, ∀ other ∈ List.range' 1 first,
    roll.dietOf person = roll.dietOf other

theorem obliged_ofDiets (diets : List Diet) (person : Nat) :
    (ofDiets diets).obliged person =
      requiredAfter (diets.length / 2) (diets.take (person - 1)) := by
  have hsize : (ofDiets diets).size = diets.length := by
    simp [OrderedMap.size, ofDiets]
  rw [obliged, values_ofDiets, hsize]

theorem freeDiets_ofDiets (diets : List Diet) :
    (ofDiets diets).freeDiets = chosen (diets.length / 2) [] diets := by
  simp only [freeDiets, obliged_ofDiets]
  exact (chosen_eq_filter (diets.length / 2) 1 [] diets).symm

theorem exists_dietOf_eq_some {first person : Nat} (hfirst : first ≤ diets.length)
    (hperson : person ∈ List.range' 1 first) :
    ∃ diet, (ofDiets diets).dietOf person = some diet := by
  obtain ⟨place, hplace, rfl⟩ := List.mem_range'.mp hperson
  rw [Nat.one_mul, dietOf_ofDiets]
  exact ⟨_, List.getElem?_eq_getElem (by omega)⟩

/-- Persons agree exactly when a diet is missing among them. -/
theorem agree_ofDiets_iff {first : Nat} (hfirst : first ≤ diets.length) :
    (ofDiets diets).Agree first ↔ ∃ missing, missing ∉ diets.take first := by
  constructor
  · intro hagree
    apply Classical.byContradiction
    intro hmissing
    have hboth := holdsBoth_ofDiets.mpr fun diet =>
      Classical.not_not.mp (not_exists.mp hmissing diet)
    obtain ⟨person, hperson, hvegan⟩ := hboth .vegan
    obtain ⟨other, hother, hnonVegetarian⟩ := hboth .nonVegetarian
    have hequal := hagree person hperson other hother
    rw [hvegan, hnonVegetarian] at hequal
    cases hequal
  · rintro ⟨missing, hmissing⟩ person hperson other hother
    obtain ⟨diet, hdiet⟩ := exists_dietOf_eq_some hfirst hperson
    obtain ⟨otherDiet, hotherDiet⟩ := exists_dietOf_eq_some hfirst hother
    -- Both differ from the missing diet, which leaves them one.
    have hne : diet ≠ missing := by
      rintro rfl
      exact hmissing (exists_dietOf_ofDiets.mp ⟨person, hperson, hdiet⟩)
    have hotherNe : otherDiet ≠ missing := by
      rintro rfl
      exact hmissing (exists_dietOf_ofDiets.mp ⟨other, hother, hotherDiet⟩)
    rw [hdiet, hotherDiet]
    cases diet <;> cases otherDiet <;> cases missing <;> simp_all

/-- How the diets of a roll come from words: who chose, and from which word. -/
structure TossedFrom (roll : Roll) (persons : Nat) (words : List UInt64) : Prop where
  keys_eq : roll.keys = List.range' 1 persons
  words_eq_nil : persons ≤ 1 → words = []
  length_of_agree : 2 ≤ persons → roll.Agree (persons / 2) → words.length = persons - 1
  length_of_not_agree : 2 ≤ persons → ¬ roll.Agree (persons / 2) → words.length = persons
  /-- Only the person behind the free half can be obliged, to the diet that all before miss. -/
  obliged_eq : ∀ person ∈ List.range' 1 persons, ∀ diet, roll.obliged person = some diet →
    person = persons / 2 + 1 ∧ roll.dietOf person = some diet ∧
      ∀ earlier ∈ List.range' 1 (persons / 2), roll.dietOf earlier ≠ some diet
  /-- The others have the diets of the words, in order. -/
  freeDiets_eq : roll.freeDiets = words.map Diet.ofWord

/-- Nobody chooses in a roll of one person. -/
theorem chosen_of_length_le_one (hpersons : diets.length ≤ 1) :
    chosen (diets.length / 2) [] diets = [] := by
  cases diets with
  | nil => rfl
  | cons diet diets =>
      obtain rfl : diets = [] := List.eq_nil_of_length_eq_zero (by simpa using hpersons)
      -- The half of one person is nobody, so this one finds both diets missing.
      simp [chosen, requiredAfter, required]

theorem tossedFrom_ofDiets (hallowed : Allowed (diets.length / 2) [] diets)
    {words : List UInt64} (hwords : words.map Diet.ofWord = chosen (diets.length / 2) [] diets) :
    (ofDiets diets).TossedFrom diets.length words := by
  have hlength : words.length = (chosen (diets.length / 2) [] diets).length := by
    rw [← hwords, List.length_map]
  have hhalf : diets.length / 2 ≤ diets.length := Nat.div_le_self _ _
  constructor
  case keys_eq => exact keys_ofDiets diets
  case words_eq_nil =>
    intro hpersons
    rw [chosen_of_length_le_one hpersons] at hlength
    exact List.eq_nil_of_length_eq_zero hlength
  case length_of_agree =>
    intro hpersons hagree
    obtain ⟨missing, hmissing⟩ := (agree_ofDiets_iff hhalf).mp hagree
    rw [hlength, (length_chosen_half hpersons hallowed).2 missing hmissing]
  case length_of_not_agree =>
    intro hpersons hagree
    rw [agree_ofDiets_iff hhalf, not_exists] at hagree
    have hboth := fun diet => Classical.not_not.mp (hagree diet)
    rw [hlength, (length_chosen_half hpersons hallowed).1 hboth]
  case obliged_eq =>
    intro person hperson diet hobliged
    obtain ⟨place, hplace, rfl⟩ := List.mem_range'.mp hperson
    rw [Nat.one_mul, obliged_ofDiets, Nat.add_sub_cancel_left] at hobliged
    obtain rfl := hallowed.place_eq hplace hobliged
    have hheld := hallowed.eq_of_requiredAfter (List.getElem?_eq_getElem hplace) hobliged
    refine ⟨by omega, ?_, ?_⟩
    · rw [Nat.one_mul, dietOf_ofDiets, List.getElem?_eq_getElem hplace, hheld]
    · intro earlier hearlier hdiet
      exact not_mem_of_requiredAfter hobliged (exists_dietOf_ofDiets.mp ⟨earlier, hearlier, hdiet⟩)
  case freeDiets_eq => rw [freeDiets_ofDiets, hwords]

/-- Every assignment ends, reads one long word for each person who chooses, and leaves the
source right behind the last of them. -/
theorem assign_tosses (source : Source σ) (persons : Nat) (state : σ) :
    ∃ roll words rest, assign source persons state = some (roll, rest) ∧
      source.longWords words.length state = (words, rest) ∧ roll.TossedFrom persons words := by
  obtain ⟨roll, rest, hroll⟩ := exists_assign source persons state
  obtain ⟨diets, rfl, rfl, hallowed, htossed⟩ := assign_eq_some_iff.mp hroll
  obtain ⟨words, hwords, hdiets⟩ := htossed.exists_words
  exact ⟨_, words, rest, hroll, hwords, tossedFrom_ofDiets hallowed hdiets⟩

end Roll

end DishPlanner

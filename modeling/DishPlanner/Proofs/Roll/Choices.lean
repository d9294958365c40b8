import DishPlanner.Draw.Generator
import DishPlanner.Proofs.Roll

/-!
# Who chooses a diet and who has to take one

An assignment tosses one coin for each person who chooses.  A list of diets is
`Roll.Allowed` when everybody who has to take a diet took it, and
`Roll.chosen` keeps the diets of the others.  Assignments are then exactly the
allowed lists whose chosen diets are the next coins of the source, and a list
is allowed exactly when both diets occur up to the first person behind the free
half.
-/

namespace DishPlanner

variable {σ : Type}

/-- The next coins of a source fall on the listed diets, and leave the source in
the state `rest`. -/
def Diet.Tossed (source : Source σ) : List Diet → (state rest : σ) → Prop
  | [], state, rest => rest = state
  | diet :: diets, state, rest =>
      ∃ middle, Diet.draw source state = some (diet, middle) ∧
        Tossed source diets middle rest

/-- A word whose coin falls on a diet. -/
def Diet.word : Diet → UInt64
  | .vegan => 0
  | .nonVegetarian => 0x8000000000000000

/-- A script of such words tosses any list of diets and is used up by it. -/
theorem Diet.tossed_script (diets : List Diet) (later : List UInt64) :
    Tossed Generator.source diets (.scripted (diets.map word ++ later)) (.scripted later) := by
  induction diets with
  | nil => rfl
  | cons diet diets ih =>
      refine ⟨.scripted (diets.map word ++ later), ?_, ih⟩
      cases diet with
      | vegan => rfl
      | nonVegetarian => rfl

namespace Roll

/-- The diet that the next person has to take, if any, behind the diets that
were given so far. -/
def requiredAfter (free : Nat) (given : List Diet) : Option Diet :=
  required free (given.count .vegan) (given.count .nonVegetarian)

/-- Draws the diets of more persons behind those that were given so far, the
latest first. -/
def assignAfter (source : Source σ) (free remaining : Nat) (given : List Diet) :
    Draw σ (List Diet) :=
  assignFrom source free remaining (given.count .vegan) (given.count .nonVegetarian) given

/-- One person's turn: the running counts keep counting the given diets. -/
theorem assignAfter_succ (source : Source σ) (free remaining : Nat) (given : List Diet) :
    assignAfter source free (remaining + 1) given =
      nextDiet source (requiredAfter free given) >>= fun diet =>
        assignAfter source free remaining (diet :: given) := by
  rw [assignAfter, assignFrom_succ]
  apply bind_congr
  intro diet
  cases diet with
  | vegan => simp [assignAfter]
  | nonVegetarian => simp [assignAfter]

/-- Whoever has to take a diet takes it. -/
def Allowed (free : Nat) : (given diets : List Diet) → Prop
  | _, [] => True
  | given, diet :: diets =>
      (∀ needed ∈ requiredAfter free given, diet = needed) ∧
        Allowed free (diet :: given) diets

/-- The diets of the persons who choose. -/
def chosen (free : Nat) : (given diets : List Diet) → List Diet
  | _, [] => []
  | given, diet :: diets =>
      match requiredAfter free given with
      | some _ => chosen free (diet :: given) diets
      | none => diet :: chosen free (diet :: given) diets

theorem allowed_cons_and_tossed_chosen_cons {source : Source σ} {free : Nat}
    {given diets : List Diet} {diet : Diet} {state rest : σ} :
    (Allowed free given (diet :: diets) ∧
        Diet.Tossed source (chosen free given (diet :: diets)) state rest) ↔
      ∃ middle,
        nextDiet source (requiredAfter free given) state = some (diet, middle) ∧
          Allowed free (diet :: given) diets ∧
          Diet.Tossed source (chosen free (diet :: given) diets) middle rest := by
  rw [Allowed, chosen]
  cases requiredAfter free given with
  | some needed =>
      constructor
      · rintro ⟨⟨htaken, hallowed⟩, htossed⟩
        exact ⟨state, by rw [htaken needed rfl]; rfl, hallowed, htossed⟩
      · rintro ⟨middle, hnext, hallowed, htossed⟩
        obtain ⟨rfl, rfl⟩ := Prod.mk.inj (Option.some.inj hnext)
        exact ⟨⟨by simp, hallowed⟩, htossed⟩
  | none =>
      constructor
      · rintro ⟨⟨-, hallowed⟩, middle, hdraw, htossed⟩
        exact ⟨middle, hdraw, hallowed, htossed⟩
      · rintro ⟨middle, hdraw, hallowed, htossed⟩
        exact ⟨⟨by simp, hallowed⟩, middle, hdraw, htossed⟩

/-- Assigning diets gives an allowed list, and tosses the coins of the persons
who choose and no others. -/
theorem assignAfter_eq_some_iff {source : Source σ} {free remaining : Nat}
    {given result : List Diet} {state rest : σ} :
    assignAfter source free remaining given state = some (result, rest) ↔
      ∃ diets, diets.length = remaining ∧ result = given.reverse ++ diets ∧
        Allowed free given diets ∧ Diet.Tossed source (chosen free given diets) state rest := by
  -- One coin or one forced diet at a time; the state in between is the link.
  induction remaining generalizing given state with
  | zero =>
      constructor
      · intro hassign
        obtain ⟨rfl, rfl⟩ := Prod.mk.inj (Option.some.inj hassign)
        exact ⟨[], rfl, by simp, trivial, rfl⟩
      · rintro ⟨diets, hlength, rfl, -, htossed⟩
        cases List.eq_nil_of_length_eq_zero hlength
        cases htossed
        rw [List.append_nil]
        rfl
  | succ remaining ih =>
      rw [assignAfter_succ, Draw.bind_apply, Option.bind_eq_some_iff]
      constructor
      · rintro ⟨⟨diet, middle⟩, hnext, hremaining⟩
        obtain ⟨diets, rfl, rfl, hallowed, htossed⟩ := ih.mp hremaining
        have hcons := allowed_cons_and_tossed_chosen_cons.mpr
          ⟨middle, hnext, hallowed, htossed⟩
        exact ⟨diet :: diets, rfl, by simp, hcons.1, hcons.2⟩
      · rintro ⟨diets, hlength, rfl, hallowed, htossed⟩
        obtain ⟨diet, diets, rfl⟩ := List.exists_cons_of_length_eq_add_one hlength
        obtain ⟨middle, hnext, hlater⟩ :=
          allowed_cons_and_tossed_chosen_cons.mp ⟨hallowed, htossed⟩
        refine ⟨(diet, middle), hnext, ih.mpr ⟨diets, Nat.succ.inj hlength, ?_, hlater⟩⟩
        rw [List.reverse_cons, List.append_assoc, List.singleton_append]

theorem exists_assignAfter (source : Source σ) (free remaining : Nat) (given : List Diet)
    (state : σ) : ∃ result rest,
      assignAfter source free remaining given state = some (result, rest) := by
  induction remaining generalizing given state with
  | zero => exact ⟨_, _, rfl⟩
  | succ remaining ih =>
      have hnext : ∃ diet middle,
          nextDiet source (requiredAfter free given) state = some (diet, middle) := by
        cases requiredAfter free given with
        | some needed => exact ⟨needed, state, rfl⟩
        | none => exact ⟨_, _, rfl⟩
      obtain ⟨diet, middle, hnext⟩ := hnext
      obtain ⟨result, rest, hresult⟩ := ih (diet :: given) middle
      refine ⟨result, rest, ?_⟩
      rw [assignAfter_succ, Draw.bind_apply, hnext]
      exact hresult

/-! ## Which lists are allowed -/

theorem requiredAfter_of_length_lt {free : Nat} {given : List Diet}
    (hgiven : given.length < free) : requiredAfter free given = none := by
  rw [requiredAfter, required, count_vegan_add_count_nonVegetarian, if_pos hgiven]

theorem requiredAfter_of_forall_mem (free : Nat) {given : List Diet}
    (hboth : ∀ diet, diet ∈ given) : requiredAfter free given = none := by
  have hvegans : given.count .vegan ≠ 0 :=
    fun hcount => List.count_eq_zero.mp hcount (hboth .vegan)
  have hothers : given.count .nonVegetarian ≠ 0 :=
    fun hcount => List.count_eq_zero.mp hcount (hboth .nonVegetarian)
  rw [requiredAfter, required, if_neg hvegans, if_neg hothers, ite_self]

theorem mem_or_eq_of_not_mem {given : List Diet} {missing : Diet} (hgiven : given ≠ [])
    (hmissing : missing ∉ given) (diet : Diet) : diet ∈ given ∨ diet = missing := by
  obtain ⟨held, hheld⟩ := List.exists_mem_of_ne_nil given hgiven
  have hdifferent : held ≠ missing := by
    rintro rfl
    exact hmissing hheld
  cases diet <;> cases held <;> cases missing <;> simp_all

/-- Behind the free half a diet that nobody holds has to be taken. -/
theorem requiredAfter_of_not_mem {free : Nat} {given : List Diet} {missing : Diet}
    (hfree : 0 < free) (hgiven : free ≤ given.length) (hmissing : missing ∉ given) :
    requiredAfter free given = some missing := by
  have hlength := count_vegan_add_count_nonVegetarian given
  have hcount := List.count_eq_zero.mpr hmissing
  rw [requiredAfter, required, if_neg (by omega)]
  cases missing with
  | vegan => rw [if_pos hcount]
  | nonVegetarian => rw [if_neg (by omega), if_pos hcount]

theorem allowed_of_forall_mem (free : Nat) {given : List Diet}
    (hboth : ∀ diet, diet ∈ given) (diets : List Diet) : Allowed free given diets := by
  induction diets generalizing given with
  | nil => trivial
  | cons diet diets ih =>
      refine ⟨?_, ih fun other => List.mem_cons_of_mem _ (hboth other)⟩
      rw [requiredAfter_of_forall_mem free hboth]
      simp

/-- The person behind the free half completes the diets. -/
theorem allowed_cons_iff_of_le {free : Nat} {given diets : List Diet} {diet : Diet}
    (hfree : 0 < free) (hgiven : free ≤ given.length) :
    Allowed free given (diet :: diets) ↔ ∀ other, other ∈ given ∨ other = diet := by
  rw [Allowed]
  by_cases hboth : ∀ other, other ∈ given
  · have hlater := allowed_of_forall_mem free
      (fun other => List.mem_cons_of_mem diet (hboth other)) diets
    rw [requiredAfter_of_forall_mem free hboth]
    simp [hlater, hboth]
  · obtain ⟨missing, hmissing⟩ := Classical.not_forall.mp hboth
    have hnonempty : given ≠ [] := List.ne_nil_of_length_pos (Nat.lt_of_lt_of_le hfree hgiven)
    rw [requiredAfter_of_not_mem hfree hgiven hmissing]
    constructor
    · rintro ⟨htaken, -⟩ other
      rw [htaken missing rfl]
      exact mem_or_eq_of_not_mem hnonempty hmissing other
    · intro hheld
      obtain rfl : missing = diet := (hheld missing).resolve_left hmissing
      refine ⟨by simp, allowed_of_forall_mem free ?_ diets⟩
      intro other
      exact List.mem_cons.mpr (hheld other).symm

/-- With `left` free persons to come, a list that reaches the person behind them
is allowed exactly when both diets are held up to that person. -/
theorem allowed_iff {free : Nat} (left : Nat) {given diets : List Diet} (hfree : 0 < free)
    (hleft : given.length + left = free) :
    Allowed free given diets ↔
      (left < diets.length → ∀ diet, diet ∈ given ∨ diet ∈ diets.take (left + 1)) := by
  induction diets generalizing given left with
  | nil => simp [Allowed]
  | cons diet diets ih =>
      cases left with
      | zero =>
          rw [allowed_cons_iff_of_le hfree (Nat.le_of_eq hleft.symm)]
          simp
      | succ left =>
          have hnone : requiredAfter free given = none :=
            requiredAfter_of_length_lt (by omega)
          rw [Allowed, hnone, ih left (by rw [List.length_cons]; omega), List.length_cons,
            List.take_succ_cons]
          simp only [Option.not_mem_none, List.mem_cons]
          grind

/-- With two persons or more, the lists that can be assigned hold both diets up
to the first person behind the free half. -/
theorem allowed_half_iff {diets : List Diet} (hpersons : 2 ≤ diets.length) :
    Allowed (diets.length / 2) [] diets ↔
      ∀ diet, diet ∈ diets.take (diets.length / 2 + 1) := by
  rw [allowed_iff (diets.length / 2) (by omega) (Nat.zero_add _)]
  simp only [List.not_mem_nil, false_or]
  exact forall_prop_of_true (by omega)

/-! ## Rolls -/

theorem find?_zip_range' (start place : Nat) (diets : List Diet) :
    (((List.range' start diets.length).zip diets).find? fun entry =>
        entry.1 = start + place).map Prod.snd = diets[place]? := by
  induction diets generalizing start place with
  | nil => rfl
  | cons diet diets ih =>
      rw [List.length_cons, List.range'_succ, List.zip_cons_cons, List.find?_cons]
      cases place with
      | zero => simp
      | succ place =>
          have hlater := ih (start + 1) place
          rw [Nat.add_right_comm, Nat.add_assoc] at hlater
          simpa using hlater

theorem dietOf_ofDiets (diets : List Diet) (place : Nat) :
    (ofDiets diets).dietOf (1 + place) = diets[place]? :=
  find?_zip_range' 1 place diets

/-- A roll of the persons from 1 on is the roll of its diets. -/
theorem exists_eq_ofDiets {roll : Roll} {persons : Nat}
    (hkeys : roll.keys = List.range' 1 persons) :
    ∃ diets : List Diet, diets.length = persons ∧ roll = ofDiets diets := by
  have hlength := congrArg List.length hkeys
  rw [OrderedMap.keys, List.length_map, List.length_range'] at hlength
  subst hlength
  refine ⟨roll.values, List.length_map _, OrderedMap.ext (List.zip_of_prod ?_ rfl)⟩
  rw [OrderedMap.values, List.length_map]
  exact hkeys

/-- Both diets are held among the first persons. -/
def HoldsBoth (roll : Roll) (first : Nat) : Prop :=
  ∀ diet, ∃ person ∈ List.range' 1 first, roll.dietOf person = some diet

theorem exists_dietOf_ofDiets {diets : List Diet} {first : Nat} {diet : Diet} :
    (∃ person ∈ List.range' 1 first, (ofDiets diets).dietOf person = some diet) ↔
      diet ∈ diets.take first := by
  rw [List.mem_take_iff_getElem]
  constructor
  · rintro ⟨person, hperson, hdiet⟩
    obtain ⟨place, hplace, rfl⟩ := List.mem_range'.mp hperson
    rw [Nat.one_mul, dietOf_ofDiets, List.getElem?_eq_some_iff] at hdiet
    obtain ⟨hlength, hdiet⟩ := hdiet
    exact ⟨place, Nat.lt_min.mpr ⟨hplace, hlength⟩, hdiet⟩
  · rintro ⟨place, hplace, hdiet⟩
    obtain ⟨hfirst, hlength⟩ := Nat.lt_min.mp hplace
    refine ⟨1 + place, List.mem_range'.mpr ⟨place, hfirst, by rw [Nat.one_mul]⟩, ?_⟩
    rw [dietOf_ofDiets, List.getElem?_eq_getElem hlength, hdiet]

theorem holdsBoth_ofDiets {diets : List Diet} {first : Nat} :
    (ofDiets diets).HoldsBoth first ↔ ∀ diet, diet ∈ diets.take first :=
  forall_congr' fun _ => exists_dietOf_ofDiets

theorem assign_eq_assignAfter (source : Source σ) (persons : Nat) :
    assign source persons = do
      return ofDiets (← assignAfter source (persons / 2) persons []) := rfl

/-- The rolls that can be drawn, with the coins that they take. -/
theorem assign_eq_some_iff {source : Source σ} {persons : Nat} {roll : Roll}
    {state rest : σ} :
    assign source persons state = some (roll, rest) ↔
      ∃ diets, diets.length = persons ∧ roll = ofDiets diets ∧
        Allowed (persons / 2) [] diets ∧
        Diet.Tossed source (chosen (persons / 2) [] diets) state rest := by
  rw [assign_eq_assignAfter, Draw.bind_apply, Option.bind_eq_some_iff]
  constructor
  · rintro ⟨⟨result, last⟩, hresult, hroll⟩
    obtain ⟨rfl, rfl⟩ := Prod.mk.inj (Option.some.inj hroll)
    obtain ⟨diets, hlength, hdiets, hrest⟩ := assignAfter_eq_some_iff.mp hresult
    exact ⟨diets, hlength, congrArg ofDiets hdiets, hrest⟩
  · rintro ⟨diets, hlength, rfl, hdiets⟩
    exact ⟨(diets, rest), assignAfter_eq_some_iff.mpr ⟨diets, hlength, rfl, hdiets⟩, rfl⟩

/-- From two persons on, each diet is held by somebody. -/
theorem count_pos_of_assign {source : Source σ} {persons : Nat} {roll : Roll} {state rest : σ}
    (hpersons : 2 ≤ persons) (hdraws : assign source persons state = some (roll, rest))
    (diet : Diet) : 0 < roll.count diet := by
  obtain ⟨diets, rfl, rfl, hallowed, -⟩ := assign_eq_some_iff.mp hdraws
  rw [count, values_ofDiets]
  exact List.count_pos_iff.mpr (List.mem_of_mem_take ((allowed_half_iff hpersons).mp hallowed diet))

theorem exists_assign (source : Source σ) (persons : Nat) (state : σ) :
    ∃ roll rest, assign source persons state = some (roll, rest) := by
  obtain ⟨diets, rest, hdiets⟩ := exists_assignAfter source (persons / 2) persons [] state
  refine ⟨ofDiets diets, rest, ?_⟩
  rw [assign_eq_assignAfter, Draw.bind_apply, hdiets]
  rfl

/-- Every assignment ends; it lists each person once, a person alone takes the
vegan diet, and of two persons or more both diets are held up to the first one
behind the free half.  Every roll with this property is assigned by some script. -/
theorem assign_image (persons : Nat) :
    (∀ {σ : Type} (source : Source σ) (state : σ), ∃ roll rest,
      assign source persons state = some (roll, rest) ∧
        roll.keys = List.range' 1 persons ∧
        (persons = 1 → roll.dietOf 1 = some .vegan) ∧
        (2 ≤ persons → roll.HoldsBoth (persons / 2 + 1))) ∧
    (2 ≤ persons → ∀ roll : Roll, roll.keys = List.range' 1 persons →
      roll.HoldsBoth (persons / 2 + 1) →
      ∃ words, ∀ later,
        assign Generator.source persons (.scripted (words ++ later)) =
          some (roll, .scripted later)) := by
  constructor
  · intro σ source state
    obtain ⟨roll, rest, hroll⟩ := exists_assign source persons state
    obtain ⟨diets, rfl, rfl, hallowed, -⟩ := assign_eq_some_iff.mp hroll
    refine ⟨ofDiets diets, rest, hroll, keys_ofDiets diets, ?_, ?_⟩
    · intro hone
      obtain ⟨diet, rfl⟩ := List.length_eq_one_iff.mp hone
      -- The half of one person is nobody, and both diets are missing.
      have hneeded : Diet.vegan ∈ requiredAfter (1 / 2) [] := rfl
      rw [hallowed.1 .vegan hneeded]
      rfl
    · intro hpersons
      exact holdsBoth_ofDiets.mpr ((allowed_half_iff hpersons).mp hallowed)
  · intro hpersons roll hkeys hboth
    obtain ⟨diets, rfl, rfl⟩ := exists_eq_ofDiets hkeys
    have hallowed := (allowed_half_iff hpersons).mpr (holdsBoth_ofDiets.mp hboth)
    refine ⟨(chosen (diets.length / 2) [] diets).map Diet.word, fun later => ?_⟩
    exact assign_eq_some_iff.mpr ⟨diets, rfl, rfl, hallowed, Diet.tossed_script _ later⟩

/-- Five diets of which the first two are the same, so that the third person has
to take the other one. -/
def forcedFive : List Diet := [.nonVegetarian, .nonVegetarian, .vegan, .nonVegetarian, .vegan]

theorem assign_image_five :
    2 ≤ 5 ∧ (ofDiets forcedFive).keys = List.range' 1 5 ∧
      (ofDiets forcedFive).HoldsBoth (5 / 2 + 1) ∧
      ∃ words, ∀ later,
        assign Generator.source 5 (.scripted (words ++ later)) =
          some (ofDiets forcedFive, .scripted later) := by
  have hkeys : (ofDiets forcedFive).keys = List.range' 1 5 := keys_ofDiets _
  have hboth : (ofDiets forcedFive).HoldsBoth (5 / 2 + 1) := by
    intro diet
    cases diet with
    | vegan => exact ⟨3, by decide, rfl⟩
    | nonVegetarian => exact ⟨1, by decide, rfl⟩
  exact ⟨by decide, hkeys, hboth, (assign_image 5).2 (by decide) _ hkeys hboth⟩

end Roll

end DishPlanner

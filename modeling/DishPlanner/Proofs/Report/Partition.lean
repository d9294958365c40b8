import DishPlanner.Proofs.Report.Legible
import DishPlanner.Proofs.Roll
import DishPlanner.Proofs.Roll.Holders

/-!
# Tallies are partitions

A tally splits the persons of a roll by diet and the placed dishes by kind.  Every
person of the roll stands in exactly one of the two lists, the one that looking the
person up leads to, and the positions of the dishes are the placed dishes dealt out on
two lists: merging the two lists again in the order of the kinds gives back every
serving.
-/

namespace DishPlanner

/-! ## Looking up a key -/

/-- Where no key is repeated, what is found at a key is its entry. -/
theorem find?_key_eq_some_iff {κ α : Type} [DecidableEq κ] {key : κ} {value : α}
    {entries : List (κ × α)} (hdistinct : (entries.map Prod.fst).Nodup) :
    (entries.find? fun entry => entry.1 = key).map Prod.snd = some value ↔
      (key, value) ∈ entries := by
  induction entries with
  | nil => simp
  | cons head rest ih =>
      obtain ⟨hhead, hrest⟩ := List.nodup_cons.mp hdistinct
      rw [List.find?_cons, List.mem_cons]
      by_cases hkey : head.1 = key
      · -- The keys behind the head are others, so the entry can only be the head.
        have hbehind : (key, value) ∉ rest := fun hmem =>
          hhead (hkey ▸ List.mem_map_of_mem hmem)
        rw [decide_eq_true hkey, or_iff_left hbehind, Prod.ext_iff]
        simp [hkey, eq_comm]
      · have hhere : (key, value) ≠ head := fun hsame => hkey (hsame ▸ rfl)
        rw [decide_eq_false hkey, or_iff_right hhere]
        exact ih hrest

namespace OrderedMap

variable {κ α : Type} [LT κ] [OrderedKey κ]

theorem nodup_keys (map : OrderedMap κ α) : map.keys.Nodup := by
  refine List.pairwise_map.mpr (map.ascending.imp ?_)
  intro earlier later hascending hsame
  rw [hsame] at hascending
  exact OrderedKey.irrefl _ hascending

variable [DecidableEq κ] {key : κ} {value : α}

theorem find?_eq_some_iff {map : OrderedMap κ α} :
    map.find? key = some value ↔ (key, value) ∈ map.entries :=
  find?_key_eq_some_iff map.nodup_keys

theorem mem_keys_iff {map : OrderedMap κ α} :
    key ∈ map.keys ↔ ∃ value, map.find? key = some value := by
  simp [keys, find?_eq_some_iff]

end OrderedMap

theorem Diet.name_ne_unknownLabel (diet : Diet) : diet.name ≠ Roll.unknownLabel := by
  cases diet with
  | vegan => decide
  | nonVegetarian => decide

namespace Roll

variable {roll : Roll} {person : Nat} {diet : Diet}

theorem mem_holders_iff_dietOf : person ∈ roll.holders diet ↔ roll.dietOf person = some diet := by
  rw [mem_holders, dietOf, OrderedMap.find?_eq_some_iff]

theorem label_eq_name_iff : roll.label person = diet.name ↔ roll.dietOf person = some diet := by
  rw [label]
  cases roll.dietOf person with
  | none => exact iff_of_false diet.name_ne_unknownLabel.symm (by simp)
  | some held => exact Diet.legible_name.injective.eq_iff.trans Option.some_inj.symm

theorem label_eq_unknownLabel_iff :
    roll.label person = unknownLabel ↔ roll.dietOf person = none := by
  rw [label]
  cases roll.dietOf person with
  | none => exact iff_of_true rfl rfl
  | some held => exact iff_of_false held.name_ne_unknownLabel (by simp)

end Roll

/-! ## Placed dishes on two lists -/

/-- Servings that merge two lists of positions: each serving takes the next position of the
list of its kind. -/
inductive Merges : (vegans others : List Position) → List Serving → Prop
  | nil : Merges [] [] []
  | vegan {vegans others : List Position} {servings : List Serving} (position : Position)
      (hmerges : Merges vegans others servings) :
      Merges (position :: vegans) others (⟨position, .vegan⟩ :: servings)
  | nonVegetarian {vegans others : List Position} {servings : List Serving} (position : Position)
      (hmerges : Merges vegans others servings) :
      Merges vegans (position :: others) (⟨position, .nonVegetarian⟩ :: servings)

theorem merges_dishPositions (servings : List Serving) :
    Merges (dishPositions servings .vegan) (dishPositions servings .nonVegetarian) servings := by
  induction servings with
  | nil => exact .nil
  | cons serving servings ih =>
      obtain ⟨position, dish⟩ := serving
      cases dish with
      | vegan => exact .vegan position ih
      | nonVegetarian => exact .nonVegetarian position ih

/-- Two lists are merged by servings exactly if they are what the servings split into. -/
theorem merges_iff {vegans others : List Position} {servings : List Serving} :
    Merges vegans others servings ↔
      vegans = dishPositions servings .vegan ∧ others = dishPositions servings .nonVegetarian := by
  constructor
  · intro hmerges
    induction hmerges with
    | nil => exact ⟨rfl, rfl⟩
    | vegan position _ ih => exact ⟨congrArg (position :: ·) ih.1, ih.2⟩
    | nonVegetarian position _ ih => exact ⟨ih.1, congrArg (position :: ·) ih.2⟩
  · rintro ⟨rfl, rfl⟩
    exact merges_dishPositions servings

theorem Merges.length_eq {vegans others : List Position} {servings : List Serving}
    (hmerges : Merges vegans others servings) :
    vegans.length + others.length = servings.length := by
  induction hmerges with
  | nil => rfl
  | vegan position _ ih =>
      rw [List.length_cons, List.length_cons]
      omega
  | nonVegetarian position _ ih =>
      rw [List.length_cons, List.length_cons]
      omega

/-! ## The tally -/

namespace Tally

/-- The persons that a tally lists for a diet. -/
def persons (tally : Tally) : Diet → List Nat
  | .vegan => tally.vegans
  | .nonVegetarian => tally.nonVegetarians

/-- The number of persons that a tally states for a diet. -/
def personCount (tally : Tally) : Diet → Nat
  | .vegan => tally.veganCount
  | .nonVegetarian => tally.nonVegetarianCount

/-- The positions that a tally lists for a kind of dish. -/
def dishes (tally : Tally) : Diet → List Position
  | .vegan => tally.veganDishes
  | .nonVegetarian => tally.nonVegetarianDishes

/-- The number of dishes that a tally states for a kind of dish. -/
def dishCount (tally : Tally) : Diet → Nat
  | .vegan => tally.veganDishCount
  | .nonVegetarian => tally.nonVegetarianDishCount

@[simp]
theorem persons_of (roll : Roll) (servings : List Serving) (diet : Diet) :
    (Tally.of roll servings).persons diet = roll.holders diet := by
  cases diet with
  | vegan => rfl
  | nonVegetarian => rfl

@[simp]
theorem personCount_of (roll : Roll) (servings : List Serving) (diet : Diet) :
    (Tally.of roll servings).personCount diet = (roll.holders diet).length := by
  cases diet with
  | vegan => rfl
  | nonVegetarian => rfl

@[simp]
theorem dishes_of (roll : Roll) (servings : List Serving) (dish : Diet) :
    (Tally.of roll servings).dishes dish = dishPositions servings dish := by
  cases dish with
  | vegan => rfl
  | nonVegetarian => rfl

@[simp]
theorem dishCount_of (roll : Roll) (servings : List Serving) (dish : Diet) :
    (Tally.of roll servings).dishCount dish = (dishPositions servings dish).length := by
  cases dish with
  | vegan => rfl
  | nonVegetarian => rfl

/-- The tally splits the persons of the roll and the servings, looking a person up agrees
with the split, and every count is the length of its list. -/
structure Partitions (tally : Tally) (roll : Roll) (servings : List Serving) : Prop where
  ascending : ∀ diet, (tally.persons diet).Pairwise (· < ·)
  disjoint : (tally.persons .vegan).Disjoint (tally.persons .nonVegetarian)
  mem_keys_iff : ∀ person, person ∈ roll.keys ↔ ∃ diet, person ∈ tally.persons diet
  people_eq : tally.people = tally.personCount .vegan + tally.personCount .nonVegetarian
  people_eq_length : tally.people = roll.keys.length
  mem_persons_iff_dietOf : ∀ person diet,
    person ∈ tally.persons diet ↔ roll.dietOf person = some diet
  mem_persons_iff_label : ∀ person diet, person ∈ tally.persons diet ↔ roll.label person = diet.name
  unknown_iff : ∀ person,
    roll.label person = Roll.unknownLabel ↔ ∀ diet, person ∉ tally.persons diet
  merges_iff : ∀ vegans others,
    Merges vegans others servings ↔
      vegans = tally.dishes .vegan ∧ others = tally.dishes .nonVegetarian
  dishCount_add_dishCount :
    tally.dishCount .vegan + tally.dishCount .nonVegetarian = servings.length
  personCount_eq : ∀ diet, tally.personCount diet = (tally.persons diet).length ∧
    tally.personCount diet = roll.count diet
  dishCount_eq : ∀ dish, tally.dishCount dish = (tally.dishes dish).length ∧
    tally.dishes dish = dishPositions servings dish

end Tally

namespace Roll

variable {roll : Roll}

theorem pairwise_lt_holders (roll : Roll) (diet : Diet) :
    (roll.holders diet).Pairwise (· < ·) := by
  rw [holders, List.pairwise_map]
  exact roll.ascending.filter _

/-- A person has one diet. -/
theorem disjoint_holders (roll : Roll) :
    (roll.holders .vegan).Disjoint (roll.holders .nonVegetarian) := by
  intro person hvegan hother
  rw [mem_holders_iff_dietOf] at hvegan hother
  exact absurd (hvegan.symm.trans hother) (by decide)

theorem mem_keys_iff_exists_holders {person : Nat} :
    person ∈ roll.keys ↔ ∃ diet, person ∈ roll.holders diet := by
  simp only [OrderedMap.mem_keys_iff, mem_holders_iff_dietOf, dietOf]

theorem size_eq_add (roll : Roll) :
    roll.size = (roll.holders .vegan).length + (roll.holders .nonVegetarian).length := by
  rw [length_holders, length_holders, count, count, count_vegan_add_count_nonVegetarian,
    OrderedMap.values, List.length_map, OrderedMap.size]

theorem label_eq_unknownLabel_iff_not_mem {person : Nat} :
    roll.label person = unknownLabel ↔ ∀ diet, person ∉ roll.holders diet := by
  simp only [label_eq_unknownLabel_iff, mem_holders_iff_dietOf, Option.eq_none_iff_forall_not_mem,
    Option.mem_def]

end Roll

/-- The tally of any roll and of any placed dishes is a partition of both. -/
theorem Tally.of_partitions (roll : Roll) (servings : List Serving) :
    (Tally.of roll servings).Partitions roll servings where
  ascending diet := by
    rw [persons_of]
    exact roll.pairwise_lt_holders diet
  disjoint := by
    rw [persons_of, persons_of]
    exact roll.disjoint_holders
  mem_keys_iff person := by
    simp only [persons_of]
    exact Roll.mem_keys_iff_exists_holders
  people_eq := by
    rw [personCount_of, personCount_of]
    exact roll.size_eq_add
  people_eq_length := (List.length_map _).symm
  mem_persons_iff_dietOf person diet := by
    rw [persons_of, Roll.mem_holders_iff_dietOf]
  mem_persons_iff_label person diet := by
    rw [persons_of, Roll.mem_holders_iff_dietOf, Roll.label_eq_name_iff]
  unknown_iff person := by
    simp only [persons_of]
    exact Roll.label_eq_unknownLabel_iff_not_mem
  merges_iff vegans others := by
    rw [dishes_of, dishes_of]
    exact DishPlanner.merges_iff
  dishCount_add_dishCount := by
    rw [dishCount_of, dishCount_of]
    exact (merges_dishPositions servings).length_eq
  personCount_eq diet := by
    rw [personCount_of, persons_of]
    exact ⟨rfl, roll.length_holders diet⟩
  dishCount_eq dish := by
    rw [dishCount_of, dishes_of]
    exact ⟨rfl, rfl⟩

end DishPlanner

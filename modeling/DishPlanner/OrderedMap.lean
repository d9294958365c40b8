/-!
# Maps with ascending keys

A finite map is its list of entries with strictly ascending keys, so two maps
with the same entries are equal and reading the entries in order needs no
sorting.  Inserting at a key that is present replaces its value.
-/

namespace DishPlanner

/-- A strict order in which any two keys are comparable. -/
class OrderedKey (κ : Type) [LT κ] : Prop where
  irrefl : ∀ key : κ, ¬ key < key
  trans : ∀ {first second third : κ}, first < second → second < third → first < third
  eq_of_not_lt : ∀ {left right : κ}, ¬ left < right → ¬ right < left → left = right

instance : OrderedKey Nat where
  irrefl := Nat.lt_irrefl
  trans := Nat.lt_trans
  eq_of_not_lt hleft hright := Nat.le_antisymm (Nat.not_lt.mp hright) (Nat.not_lt.mp hleft)

instance : OrderedKey Char where
  irrefl := Char.lt_irrefl
  trans := Char.lt_trans
  eq_of_not_lt hleft hright := Char.le_antisymm (Char.not_lt.mp hright) (Char.not_lt.mp hleft)

instance : OrderedKey String where
  irrefl := String.lt_irrefl
  trans := String.lt_trans
  eq_of_not_lt hleft hright := String.le_antisymm (String.not_lt.mp hright) (String.not_lt.mp hleft)

/-- A finite map, stored as entries with strictly ascending keys. -/
@[ext]
structure OrderedMap (κ α : Type) [LT κ] where
  entries : List (κ × α)
  ascending : entries.Pairwise fun earlier later => earlier.1 < later.1

namespace OrderedMap

variable {κ α : Type} [LT κ]

instance [DecidableEq κ] [DecidableEq α] : DecidableEq (OrderedMap κ α) := fun left right =>
  decidable_of_iff (left.entries = right.entries) OrderedMap.ext_iff.symm

/-- The map without entries. -/
def empty : OrderedMap κ α := ⟨[], .nil⟩

instance : Inhabited (OrderedMap κ α) := ⟨empty⟩

/-- The number of keys. -/
def size (map : OrderedMap κ α) : Nat := map.entries.length

/-- The keys, ascending. -/
def keys (map : OrderedMap κ α) : List κ := map.entries.map Prod.fst

/-- The values, in the order of their keys. -/
def values (map : OrderedMap κ α) : List α := map.entries.map Prod.snd

/-- The value at a key. -/
def find? [DecidableEq κ] (map : OrderedMap κ α) (key : κ) : Option α :=
  (map.entries.find? fun entry => entry.1 = key).map Prod.snd

/-- Whether a key is present. -/
def contains [DecidableEq κ] (map : OrderedMap κ α) (key : κ) : Bool :=
  map.entries.any fun entry => entry.1 = key

theorem contains_eq_isSome_find? [DecidableEq κ] (map : OrderedMap κ α) (key : κ) :
    map.contains key = (map.find? key).isSome := by
  rw [contains, find?, Option.isSome_map, Bool.eq_iff_iff, List.find?_isSome, List.any_eq_true]

section Insert

variable [DecidableLT κ]

/-- Puts an entry before the first larger key and replaces an equal one. -/
def insertEntry (key : κ) (value : α) : List (κ × α) → List (κ × α)
  | [] => [(key, value)]
  | (other, held) :: rest =>
      if key < other then (key, value) :: (other, held) :: rest
      else if other < key then (other, held) :: insertEntry key value rest
      else (key, value) :: rest

theorem key_mem_of_mem_insertEntry {key : κ} {value : α} {entry : κ × α}
    {entries : List (κ × α)} (hmem : entry ∈ insertEntry key value entries) :
    entry = (key, value) ∨ entry ∈ entries := by
  induction entries with
  | nil => simpa [insertEntry] using hmem
  | cons head rest ih =>
      obtain ⟨other, held⟩ := head
      simp only [insertEntry] at hmem
      split at hmem
      · simpa using hmem
      · split at hmem
        · rcases List.mem_cons.mp hmem with hhead | hrest
          · exact .inr (List.mem_cons.mpr (.inl hhead))
          · exact (ih hrest).imp id (List.mem_cons_of_mem _)
        · rcases List.mem_cons.mp hmem with hhead | hrest
          · exact .inl hhead
          · exact .inr (List.mem_cons_of_mem _ hrest)

theorem insertEntry_ascending [OrderedKey κ] (key : κ) (value : α) {entries : List (κ × α)}
    (hascending : entries.Pairwise fun earlier later => earlier.1 < later.1) :
    (insertEntry key value entries).Pairwise fun earlier later => earlier.1 < later.1 := by
  induction entries with
  | nil => simp [insertEntry]
  | cons head rest ih =>
      obtain ⟨other, held⟩ := head
      obtain ⟨hhead, hrest⟩ := List.pairwise_cons.mp hascending
      simp only [insertEntry]
      split
      next hbefore =>
        refine List.pairwise_cons.mpr ⟨fun entry hentry => ?_, hascending⟩
        rcases List.mem_cons.mp hentry with rfl | htail
        · exact hbefore
        · exact OrderedKey.trans hbefore (hhead entry htail)
      next hnotBefore =>
        split
        next hafter =>
          refine List.pairwise_cons.mpr ⟨fun entry hentry => ?_, ih hrest⟩
          rcases key_mem_of_mem_insertEntry hentry with rfl | htail
          · exact hafter
          · exact hhead entry htail
        next hnotAfter =>
          have hequal : key = other := OrderedKey.eq_of_not_lt hnotBefore hnotAfter
          subst hequal
          exact List.pairwise_cons.mpr ⟨hhead, hrest⟩

theorem find?_insertEntry [DecidableEq κ] [OrderedKey κ] (key other : κ) (value : α)
    (entries : List (κ × α)) :
    (insertEntry key value entries).find? (fun entry => entry.1 = other) =
      if other = key then some (key, value) else entries.find? fun entry => entry.1 = other := by
  induction entries with
  | nil => by_cases hkey : key = other <;> simp [insertEntry, hkey, eq_comm]
  | cons head rest ih =>
      obtain ⟨first, held⟩ := head
      simp only [insertEntry]
      split
      · by_cases hkey : key = other <;> simp [hkey, eq_comm]
      · next hnotBefore =>
          split
          · next hafter =>
              by_cases hfirst : first = other
              · have hdifferent : other ≠ key := by
                  rintro rfl
                  subst hfirst
                  exact OrderedKey.irrefl _ hafter
                simp [hfirst, hdifferent]
              · simp [hfirst, ih]
          · next hnotAfter =>
              have hequal : key = first := OrderedKey.eq_of_not_lt hnotBefore hnotAfter
              subst hequal
              by_cases hkey : key = other <;> simp [hkey, eq_comm]

variable [OrderedKey κ]

/-- The map with a value set at a key. -/
def insert (map : OrderedMap κ α) (key : κ) (value : α) : OrderedMap κ α where
  entries := insertEntry key value map.entries
  ascending := insertEntry_ascending key value map.ascending

/-- Inserting changes what is found at one key only. -/
theorem find?_insert [DecidableEq κ] (map : OrderedMap κ α) (key other : κ) (value : α) :
    (map.insert key value).find? other =
      if other = key then some value else map.find? other := by
  simp only [find?, insert, find?_insertEntry]
  split <;> rfl

/-- The map of a list of entries, where a later entry replaces an earlier one of its key. -/
def ofList (entries : List (κ × α)) : OrderedMap κ α :=
  entries.foldl (fun map entry => map.insert entry.1 entry.2) empty

end Insert

end OrderedMap

end DishPlanner

import DishPlanner.Proofs.Json.Scalars

/-!
# Spellings of JSON values

A text spells a value when it writes it in the grammar of the reader, with any
blanks between the signs.  The reader takes the value of every such text, and
both layouts of the printer are such texts.  Floating-point numbers are left
out: they are rounded on both ways.
-/

namespace DishPlanner.Json

/-! ## The grammar -/

mutual

/-- A text of a value, blanks in front included. -/
inductive Spells : Json → List Char → Prop where
  | null : Spells .null ['n', 'u', 'l', 'l']
  | bool (value : Bool) :
      Spells (.bool value)
        (if value then ['t', 'r', 'u', 'e'] else ['f', 'a', 'l', 's', 'e'])
  | natural {value : Nat} (hfits : value < wordCount) :
      Spells (.number (.natural value)) (Nat.toDigits 10 value)
  | string (text : String) : Spells (.string text) (writeString text)
  | emptyArray {blanks : List Char} (hblanks : AllBlank blanks) :
      Spells (.array []) ('[' :: (blanks ++ [']']))
  | array {items : List Json} {text : List Char} (hitems : SpellsItems items text) :
      Spells (.array items) ('[' :: text)
  | emptyObject {blanks : List Char} (hblanks : AllBlank blanks) :
      Spells (.object []) ('\x7b' :: (blanks ++ ['\x7d']))
  | object {members : List (String × Json)} {text : List Char}
      (hmembers : SpellsMembers members text) : Spells (.object members) ('\x7b' :: text)
  | behind {json : Json} {blanks text : List Char} (hblanks : AllBlank blanks)
      (hjson : Spells json text) : Spells json (blanks ++ text)

/-- A text of one item or more up to the closing bracket. -/
inductive SpellsItems : List Json → List Char → Prop where
  | last {item : Json} {text blanks : List Char} (hitem : Spells item text)
      (hblanks : AllBlank blanks) : SpellsItems [item] (text ++ (blanks ++ [']']))
  | next {item : Json} {items : List Json} {text blanks more : List Char}
      (hitem : Spells item text) (hblanks : AllBlank blanks) (hitems : SpellsItems items more) :
      SpellsItems (item :: items) (text ++ (blanks ++ ',' :: more))

/-- A text of one member or more up to the closing brace. -/
inductive SpellsMembers : List (String × Json) → List Char → Prop where
  | last {name : String} {value : Json} {before between text blanks : List Char}
      (hbefore : AllBlank before) (hbetween : AllBlank between) (hvalue : Spells value text)
      (hblanks : AllBlank blanks) :
      SpellsMembers [(name, value)]
        (before ++ (writeString name ++ (between ++ ':' :: (text ++ (blanks ++ ['\x7d'])))))
  | next {name : String} {value : Json} {members : List (String × Json)}
      {before between text blanks more : List Char}
      (hbefore : AllBlank before) (hbetween : AllBlank between) (hvalue : Spells value text)
      (hblanks : AllBlank blanks) (hmembers : SpellsMembers members more) :
      SpellsMembers ((name, value) :: members)
        (before ++ (writeString name ++ (between ++ ':' :: (text ++ (blanks ++ ',' :: more)))))

end

/-! ## Reading a spelling -/

theorem readValue_behind (fuel : Nat) {blanks : List Char} (hblanks : AllBlank blanks)
    (text : List Char) : readValue fuel (blanks ++ text) = readValue fuel text := by
  cases fuel with
  | zero => rw [readValue, readValue]
  | succ fuel => rw [readValue, readValue, skipBlanks_append hblanks]

theorem readItems_skipBlanks (fuel : Nat) (taken : List Json) (text : List Char) :
    readItems fuel taken (skipBlanks text) = readItems fuel taken text := by
  have hvalue (fuel : Nat) : readValue fuel (skipBlanks text) = readValue fuel text := by
    cases fuel with
    | zero => rw [readValue, readValue]
    | succ fuel => rw [readValue, readValue, skipBlanks_skipBlanks]
  cases fuel with
  | zero => rw [readItems, readItems]
  | succ fuel => rw [readItems, readItems, hvalue]

theorem readMembers_skipBlanks (fuel : Nat) (taken : List (String × Json)) (text : List Char) :
    readMembers fuel taken (skipBlanks text) = readMembers fuel taken text := by
  cases fuel with
  | zero => rw [readMembers, readMembers]
  | succ fuel => rw [readMembers, readMembers, skipBlanks_skipBlanks]

/-- A text of a number is read as a number. -/
theorem readValue_toDigits {value : Nat} (hfits : value < wordCount) (fuel : Nat)
    {rest : List Char} (hrest : EndsNumber rest) :
    readValue (fuel + 1) (Nat.toDigits 10 value ++ rest) =
      some (.number (.natural value), rest) := by
  rw [readValue, skipBlanks_toDigits]
  split
  case h_7 => rw [readNumber_toDigits hfits hrest]; rfl
  all_goals exact absurd ‹_› (toDigits_append_ne (by decide))

/-- No value begins with a closing bracket. -/
theorem skipBlanks_ne_of_spells {json : Json} {text : List Char} (rest : List Char) :
    Spells json text → ∀ behind, skipBlanks (text ++ rest) ≠ ']' :: behind
  | .null | .bool true | .bool false | .string _ | .emptyArray _ | .array _ | .emptyObject _
  | .object _ => by intro behind h; cases h
  | .natural _ => by
      rw [skipBlanks_toDigits]
      exact fun _ => toDigits_append_ne (by decide)
  | .behind hblanks hvalue => by
      rw [List.append_assoc, skipBlanks_append hblanks]
      exact skipBlanks_ne_of_spells rest hvalue

theorem skipBlanks_ne_of_spellsItems {items : List Json} {text : List Char}
    (hitems : SpellsItems items text) (rest behind : List Char) :
    skipBlanks (text ++ rest) ≠ ']' :: behind := by
  cases hitems with
  | last hitem hblanks | next hitem hblanks hmore =>
      rw [List.append_assoc]
      exact skipBlanks_ne_of_spells _ hitem behind

theorem skipBlanks_ne_of_spellsMembers {members : List (String × Json)} {text : List Char}
    (hmembers : SpellsMembers members text) (rest behind : List Char) :
    skipBlanks (text ++ rest) ≠ '\x7d' :: behind := by
  cases hmembers with
  | last hbefore hbetween hvalue hblanks | next hbefore hbetween hvalue hblanks hmore =>
      rw [List.append_assoc, List.append_assoc, writeString_append,
        skipBlanks_sign hbefore '"' rfl]
      intro hclose
      cases hclose

/-- A reader with fuel for a sign has one step to make. -/
theorem exists_fuel {size fuel : Nat} (hfuel : size + 1 ≤ fuel) :
    ∃ less, fuel = less + 1 ∧ size ≤ less := by
  cases fuel with
  | zero => cases hfuel
  | succ less => exact ⟨less, rfl, Nat.le_of_succ_le_succ hfuel⟩

section Member

variable {fuel : Nat} {name : String} (hfuel : (writeString name).length ≤ fuel)
  {before between : List Char} (hbefore : AllBlank before) (hbetween : AllBlank between)
  {value : Json} {text rest : List Char}
  (hread : readValue fuel (text ++ rest) = some (value, rest))

include hfuel hbefore hbetween hread

/-- Behind a comma the reader goes on to the next member. -/
theorem readMembers_next (taken : List (String × Json)) {more : List Char}
    (hrest : skipBlanks rest = ',' :: more) :
    readMembers (fuel + 1) taken
        (before ++ (writeString name ++ (between ++ ':' :: (text ++ rest)))) =
      readMembers fuel ((name, value) :: taken) more := by
  rw [writeString_append, readMembers, skipBlanks_sign hbefore '"' rfl]
  simp only [readString_written (Nat.le_succ_of_le hfuel), skipBlanks_sign hbetween ':' rfl,
    hread, hrest]

/-- Behind the closing brace the object is complete. -/
theorem readMembers_last (taken : List (String × Json)) {behind : List Char}
    (hrest : skipBlanks rest = '\x7d' :: behind) :
    readMembers (fuel + 1) taken
        (before ++ (writeString name ++ (between ++ ':' :: (text ++ rest)))) =
      some (.object (taken.reverse ++ [(name, value)]), behind) := by
  rw [writeString_append, readMembers, skipBlanks_sign hbefore '"' rfl, ← List.reverse_cons]
  simp only [readString_written (Nat.le_succ_of_le hfuel), skipBlanks_sign hbetween ':' rfl,
    hread, hrest]

end Member

mutual

-- Structural on the derivations.  The length of the text is enough fuel, because every call that
-- costs fuel has taken a sign in front of what it goes on to read.

/-- The value of a spelling is read, and nothing behind it. -/
theorem readValue_of_spells {json : Json} {text : List Char} {fuel : Nat}
    (hfuel : text.length ≤ fuel) {rest : List Char} (hrest : EndsNumber rest) :
    Spells json text → readValue fuel (text ++ rest) = some (json, rest)
  | .null | .bool true | .bool false => by
      obtain ⟨fuel, rfl, _⟩ := exists_fuel hfuel
      rfl
  | .natural hfits => by
      have hpositive := Nat.lt_of_lt_of_le (List.length_pos_iff.mpr Nat.toDigits_ne_nil) hfuel
      obtain ⟨fuel, rfl, _⟩ := exists_fuel hpositive
      exact readValue_toDigits hfits fuel hrest
  | .string text => by
      obtain ⟨fuel, rfl, _⟩ := exists_fuel hfuel
      rw [writeString_append, readValue, skipBlanks_cons rfl]
      simp only [readString_written hfuel, Option.map_some]
  | .emptyArray hblanks => by
      obtain ⟨fuel, rfl, _⟩ := exists_fuel hfuel
      rw [List.cons_append, List.append_assoc, readValue, skipBlanks_cons rfl]
      simp only [List.singleton_append, skipBlanks_sign hblanks ']' rfl]
  | .array hitems => by
      obtain ⟨fuel, rfl, hless⟩ := exists_fuel hfuel
      have hread := readItems_of_spells hless [] rest hitems
      rw [List.cons_append, readValue, skipBlanks_cons rfl]
      simp only
      -- the items do not begin with the bracket of an empty array
      split
      next behind hclose => exact absurd hclose (skipBlanks_ne_of_spellsItems hitems rest behind)
      next => rw [readItems_skipBlanks, hread]; rfl
  | .emptyObject hblanks => by
      obtain ⟨fuel, rfl, _⟩ := exists_fuel hfuel
      rw [List.cons_append, List.append_assoc, readValue, skipBlanks_cons rfl]
      simp only [List.singleton_append, skipBlanks_sign hblanks '\x7d' rfl]
  | .object hmembers => by
      obtain ⟨fuel, rfl, hless⟩ := exists_fuel hfuel
      have hread := readMembers_of_spells hless [] rest hmembers
      rw [List.cons_append, readValue, skipBlanks_cons rfl]
      simp only
      split
      next behind hclose =>
        exact absurd hclose (skipBlanks_ne_of_spellsMembers hmembers rest behind)
      next => rw [readMembers_skipBlanks, hread]; rfl
  | .behind hblanks hvalue => by
      rw [List.length_append] at hfuel
      rw [List.append_assoc, readValue_behind fuel hblanks]
      exact readValue_of_spells (Nat.le_of_add_left_le hfuel) hrest hvalue

/-- The items of an array are read up to its closing bracket. -/
theorem readItems_of_spells {items : List Json} {text : List Char} {fuel : Nat}
    (hfuel : text.length ≤ fuel) (taken : List Json) (rest : List Char) :
    SpellsItems items text →
      readItems fuel taken (text ++ rest) = some (.array (taken.reverse ++ items), rest)
  | @SpellsItems.last item text blanks hitem hblanks => by
      have hlonger : text.length + 1 ≤ (text ++ (blanks ++ [']'])).length := by
        simp only [List.length_append, List.length_singleton]
        omega
      obtain ⟨fuel, rfl, hless⟩ := exists_fuel (Nat.le_trans hlonger hfuel)
      have hread := readValue_of_spells hless (endsNumber_sign hblanks ']' (by decide) rest) hitem
      simp only [List.append_assoc, List.singleton_append]
      rw [readItems, hread]
      simp only [skipBlanks_sign hblanks ']' rfl]
      rw [List.reverse_cons]
  | @SpellsItems.next item items text blanks more hitem hblanks hmore => by
      have hlonger :
          text.length + more.length + 1 ≤ (text ++ (blanks ++ ',' :: more)).length := by
        simp only [List.length_append, List.length_cons]
        omega
      obtain ⟨fuel, rfl, hless⟩ := exists_fuel (Nat.le_trans hlonger hfuel)
      have hread := readValue_of_spells (Nat.le_of_add_right_le hless)
        (endsNumber_sign hblanks ',' (by decide) (more ++ rest)) hitem
      have hfurther := readItems_of_spells (Nat.le_of_add_left_le hless) (item :: taken) rest hmore
      simp only [List.append_assoc, List.cons_append]
      rw [readItems, hread]
      simp only [skipBlanks_sign hblanks ',' rfl, hfurther]
      rw [List.reverse_cons, List.append_assoc]
      rfl

/-- The members of an object are read up to its closing brace. -/
theorem readMembers_of_spells {members : List (String × Json)} {text : List Char} {fuel : Nat}
    (hfuel : text.length ≤ fuel) (taken : List (String × Json)) (rest : List Char) :
    SpellsMembers members text →
      readMembers fuel taken (text ++ rest) = some (.object (taken.reverse ++ members), rest)
  | @SpellsMembers.last name value before between text blanks hbefore hbetween hvalue hblanks => by
      have hlonger : (writeString name).length + text.length + 1 ≤ (before ++ (writeString name ++
          (between ++ ':' :: (text ++ (blanks ++ ['\x7d']))))).length := by
        simp only [List.length_append, List.length_cons]
        omega
      obtain ⟨fuel, rfl, hless⟩ := exists_fuel (Nat.le_trans hlonger hfuel)
      have hread := readValue_of_spells (Nat.le_of_add_left_le hless)
        (endsNumber_sign hblanks '\x7d' (by decide) rest) hvalue
      simp only [List.append_assoc, List.cons_append, List.nil_append]
      exact readMembers_last (Nat.le_of_add_right_le hless) hbefore hbetween hread taken
        (skipBlanks_sign hblanks '\x7d' rfl rest)
  | @SpellsMembers.next name value members before between text blanks more hbefore hbetween hvalue
      hblanks hmore => by
      have hlonger : (writeString name).length + text.length + more.length + 1 ≤
          (before ++ (writeString name ++
            (between ++ ':' :: (text ++ (blanks ++ ',' :: more))))).length := by
        simp only [List.length_append, List.length_cons]
        omega
      obtain ⟨fuel, rfl, hless⟩ := exists_fuel (Nat.le_trans hlonger hfuel)
      have hboth := Nat.le_of_add_right_le hless
      have hread := readValue_of_spells (Nat.le_of_add_left_le hboth)
        (endsNumber_sign hblanks ',' (by decide) (more ++ rest)) hvalue
      have hfurther := readMembers_of_spells (Nat.le_of_add_left_le hless)
        ((name, value) :: taken) rest hmore
      simp only [List.append_assoc, List.cons_append]
      rw [readMembers_next (Nat.le_of_add_right_le hboth) hbefore hbetween hread taken
        (skipBlanks_sign hblanks ',' rfl (more ++ rest)), hfurther, List.reverse_cons,
        List.append_assoc]
      rfl

end

/-- A text that spells a value is parsed as this value. -/
theorem parse_of_spells {json : Json} {text : List Char} (hjson : Spells json text) :
    parse (String.ofList text) = some json := by
  have hfuel : text.length ≤ 2 * text.length + 1 := by omega
  have hend : EndsNumber [] := by
    intro c hc
    cases hc
  have hread := readValue_of_spells hfuel hend hjson
  rw [List.append_nil] at hread
  simp only [parse, String.toList_ofList, hread]
  rfl

/-! ## Both layouts are spellings -/

/-- A value whose numbers are words. -/
inductive InWords : Json → Prop where
  | null : InWords .null
  | bool (value : Bool) : InWords (.bool value)
  | natural {value : Nat} (hfits : value < wordCount) : InWords (.number (.natural value))
  | string (text : String) : InWords (.string text)
  | array {items : List Json} (hitems : ∀ item ∈ items, InWords item) : InWords (.array items)
  | object {members : List (String × Json)} (hmembers : ∀ member ∈ members, InWords member.2) :
      InWords (.object members)

theorem spellsItems_write {item : Json} {items : List Json}
    (hitems : ∀ other ∈ item :: items, Spells other (write other)) :
    SpellsItems (item :: items) (write item ++ writeItems items) := by
  induction items generalizing item with
  | nil => exact .last (hitems item List.mem_cons_self) allBlank_nil
  | cons following items ih =>
      obtain ⟨hitem, hfollowing⟩ := List.forall_mem_cons.mp hitems
      exact .next hitem allBlank_nil (ih hfollowing)

theorem spellsMembers_write {name : String} {value : Json} {members : List (String × Json)}
    (hmembers : ∀ member ∈ (name, value) :: members, Spells member.2 (write member.2)) :
    SpellsMembers ((name, value) :: members)
      (writeString name ++ ':' :: (write value ++ writeMembers members)) := by
  induction members generalizing name value with
  | nil =>
      exact .last allBlank_nil allBlank_nil (hmembers _ List.mem_cons_self) allBlank_nil
  | cons following members ih =>
      obtain ⟨hvalue, hfollowing⟩ := List.forall_mem_cons.mp hmembers
      exact .next allBlank_nil allBlank_nil hvalue allBlank_nil (ih hfollowing)

/-- The layout without blanks spells the value. -/
theorem spells_write {json : Json} (hjson : InWords json) : Spells json (write json) := by
  induction hjson with
  | null => exact .null
  | bool value => exact .bool value
  | natural hfits => exact .natural hfits
  | string text => exact .string text
  | @array items hitems ih =>
      cases items with
      | nil => exact .emptyArray allBlank_nil
      | cons item items => exact .array (spellsItems_write ih)
  | @object members hmembers ih =>
      cases members with
      | nil => exact .emptyObject allBlank_nil
      | cons member members => exact .object (spellsMembers_write ih)

theorem spellsItems_writeIndented {level : Nat} {item : Json} {items : List Json}
    (hitems : ∀ other ∈ item :: items, ∀ level, Spells other (writeIndented level other)) :
    SpellsItems (item :: items) (newLine (level + 1) ++
      (writeIndented (level + 1) item ++ writeIndentedItems level items)) := by
  rw [← List.append_assoc]
  induction items generalizing item with
  | nil =>
      have hitem := Spells.behind (allBlank_newLine (level + 1))
        (hitems item List.mem_cons_self (level + 1))
      exact .last hitem (allBlank_newLine level)
  | cons following items ih =>
      obtain ⟨hitem, hfollowing⟩ := List.forall_mem_cons.mp hitems
      have hfurther := ih hfollowing
      rw [List.append_assoc] at hfurther
      exact .next (.behind (allBlank_newLine (level + 1)) (hitem _)) allBlank_nil hfurther

theorem spellsMembers_writeIndented {level : Nat} {name : String} {value : Json}
    {members : List (String × Json)}
    (hmembers : ∀ member ∈ (name, value) :: members, ∀ level,
      Spells member.2 (writeIndented level member.2)) :
    SpellsMembers ((name, value) :: members) (newLine (level + 1) ++ (writeString name ++ ':' ::
      ' ' :: (writeIndented (level + 1) value ++ writeIndentedMembers level members))) := by
  have hspace : AllBlank [' '] := by
    intro c hc
    rw [List.mem_singleton.mp hc]
    rfl
  induction members generalizing name value with
  | nil =>
      have hvalue := Spells.behind hspace (hmembers _ List.mem_cons_self (level + 1))
      exact .last (allBlank_newLine (level + 1)) allBlank_nil hvalue (allBlank_newLine level)
  | cons following members ih =>
      obtain ⟨hvalue, hfollowing⟩ := List.forall_mem_cons.mp hmembers
      exact .next (allBlank_newLine (level + 1)) allBlank_nil (.behind hspace (hvalue _))
        allBlank_nil (ih hfollowing)

/-- The layout with one line per item spells the value at every level. -/
theorem spells_writeIndented {json : Json} (hjson : InWords json) (level : Nat) :
    Spells json (writeIndented level json) := by
  induction hjson generalizing level with
  | null => exact .null
  | bool value => exact .bool value
  | natural hfits => exact .natural hfits
  | string text => exact .string text
  | @array items hitems ih =>
      cases items with
      | nil => exact .emptyArray allBlank_nil
      | cons item items => exact .array (spellsItems_writeIndented ih)
  | @object members hmembers ih =>
      cases members with
      | nil => exact .emptyObject allBlank_nil
      | cons member members => exact .object (spellsMembers_writeIndented ih)

/-- Both texts of a value are parsed as this value. -/
theorem parse_compact {json : Json} (hjson : InWords json) : parse json.compact = some json :=
  parse_of_spells (spells_write hjson)

theorem parse_pretty {json : Json} (hjson : InWords json) : parse json.pretty = some json :=
  parse_of_spells (spells_writeIndented hjson 0)

end DishPlanner.Json

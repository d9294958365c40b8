import DishPlanner.Proofs.Json.Scalars
import DishPlanner.Report.Text

/-!
# Legible texts

A way to write values is legible if a text tells the value and where its own end
is, whatever follows.  Numbers are legible in front of a sign that does not go on
with them, and positions, lists of numbers and the lines of pairings are put
together from numbers and fixed words: reading such a text takes one piece after
the other from its front.
-/

namespace DishPlanner

variable {α : Type}

/-- What is written tells the value and where the text of the value ends. -/
def Legible (write : α → String) : Prop :=
  ∀ ⦃left right : α⦄ ⦃leftRest rightRest : List Char⦄,
    (write left).toList ++ leftRest = (write right).toList ++ rightRest →
      left = right ∧ leftRest = rightRest

theorem Legible.injective {write : α → String} (hwrite : Legible write) :
    Function.Injective write := by
  intro left right htext
  have hnothing : (write left).toList ++ [] = (write right).toList ++ [] := by rw [htext]
  exact (hwrite hnothing).1

/-! ## Numbers -/

theorem toDigits_injective : Function.Injective (Nat.toDigits 10) := by
  intro left right hdigits
  calc left
    _ = Nat.ofDigitChars 10 (Nat.toDigits 10 left) 0 := Nat.ofDigitChars_ten_toDigits.symm
    _ = Nat.ofDigitChars 10 (Nat.toDigits 10 right) 0 := by rw [hdigits]
    _ = right := Nat.ofDigitChars_ten_toDigits

/-- A number is taken from the front of a text that does not go on with it. -/
theorem toDigits_append_inj {left right : Nat} {leftRest rightRest : List Char}
    (hleft : Json.EndsNumber leftRest) (hright : Json.EndsNumber rightRest)
    (htext : Nat.toDigits 10 left ++ leftRest = Nat.toDigits 10 right ++ rightRest) :
    left = right ∧ leftRest = rightRest := by
  have htaken := congrArg Json.takeDigits htext
  rw [Json.takeDigits_append (fun _ => Json.isDigit_of_mem_toDigits left) hleft,
    Json.takeDigits_append (fun _ => Json.isDigit_of_mem_toDigits right) hright] at htaken
  obtain ⟨hdigits, hrest⟩ := Prod.mk.inj htaken
  exact ⟨toDigits_injective hdigits, hrest⟩

theorem endsNumber_cons {c : Char}
    (hc : c.isDigit = false ∧ c ≠ '.' ∧ c ≠ 'e' ∧ c ≠ 'E') (rest : List Char) :
    Json.EndsNumber (c :: rest) :=
  Json.endsNumber_sign Json.allBlank_nil c hc rest

/-- A word that begins with a blank ends the number in front of it. -/
theorem endsNumber_blank {word : List Char} (hword : word.head? = some ' ')
    (rest : List Char) : Json.EndsNumber (word ++ rest) := by
  cases word with
  | nil => cases hword
  | cons c word =>
      cases hword
      exact endsNumber_cons (by decide) _

theorem toList_toString (number : Nat) : (toString number).toList = Nat.toDigits 10 number := by
  rw [Nat.toString_eq_repr, Nat.toList_repr]

/-! ## Lists of numbers -/

/-- What a list in brackets shows behind one of its numbers. -/
def numbersBehind : List Nat → List Char
  | [] => [']']
  | number :: numbers => ',' :: ' ' :: (Nat.toDigits 10 number ++ numbersBehind numbers)

theorem endsNumber_numbersBehind (numbers : List Nat) (rest : List Char) :
    Json.EndsNumber (numbersBehind numbers ++ rest) := by
  cases numbers with
  | nil => exact endsNumber_cons (by decide) _
  | cons number numbers => exact endsNumber_cons (by decide) _

theorem intercalate_append_bracket (number : Nat) (numbers : List Nat) :
    [',', ' '].intercalate ((number :: numbers).map (Nat.toDigits 10)) ++ [']'] =
      Nat.toDigits 10 number ++ numbersBehind numbers := by
  induction numbers generalizing number with
  | nil => rw [List.map_cons, List.map_nil, List.intercalate_singleton, numbersBehind]
  | cons next numbers ih =>
      rw [List.map_cons, List.map_cons, List.intercalate_cons_cons, ← List.map_cons,
        List.append_assoc, List.append_assoc, ih]
      rfl

theorem toList_bracketed (numbers : List Nat) :
    (bracketed numbers).toList =
      '[' :: ([',', ' '].intercalate (numbers.map (Nat.toDigits 10)) ++ [']']) := by
  have hdigits : String.toList ∘ toString = Nat.toDigits 10 := funext toList_toString
  rw [bracketed, String.toList_append, String.toList_append, String.toList_intercalate,
    List.map_map, hdigits]
  rfl

theorem toList_bracketed_cons (number : Nat) (numbers : List Nat) :
    (bracketed (number :: numbers)).toList =
      '[' :: (Nat.toDigits 10 number ++ numbersBehind numbers) := by
  rw [toList_bracketed, intercalate_append_bracket]

/-- Behind a number a comma announces the next one and a bracket ends the list. -/
theorem numbersBehind_append_inj {left right : List Nat} {leftRest rightRest : List Char}
    (htext : numbersBehind left ++ leftRest = numbersBehind right ++ rightRest) :
    left = right ∧ leftRest = rightRest := by
  induction left generalizing right with
  | nil =>
      cases right with
      | nil => exact ⟨rfl, (List.cons.inj htext).2⟩
      | cons number numbers => exact absurd (List.cons.inj htext).1 (by decide)
  | cons number numbers ih =>
      cases right with
      | nil => exact absurd (List.cons.inj htext).1 (by decide)
      | cons other others =>
          simp only [numbersBehind, List.cons_append, List.append_assoc, List.cons.injEq,
            true_and] at htext
          obtain ⟨hnumber, hbehind⟩ := toDigits_append_inj (endsNumber_numbersBehind numbers _)
            (endsNumber_numbersBehind others _) htext
          obtain ⟨hnumbers, hrest⟩ := ih hbehind
          exact ⟨congrArg₂ List.cons hnumber hnumbers, hrest⟩

theorem legible_bracketed : Legible bracketed := by
  intro left right leftRest rightRest htext
  cases left with
  | nil =>
      cases right with
      | nil => exact ⟨rfl, List.append_cancel_left htext⟩
      | cons other others =>
          rw [toList_bracketed_cons, List.cons_append, List.append_assoc] at htext
          exact absurd (List.cons.inj htext).2.symm (Json.toDigits_append_ne (by decide))
  | cons number numbers =>
      cases right with
      | nil =>
          rw [toList_bracketed_cons, List.cons_append, List.append_assoc] at htext
          exact absurd (List.cons.inj htext).2 (Json.toDigits_append_ne (by decide))
      | cons other others =>
          rw [toList_bracketed_cons, toList_bracketed_cons, List.cons_append, List.cons_append,
            List.append_assoc, List.append_assoc] at htext
          -- Behind the bracket the lists go on as they do behind a comma.
          apply numbersBehind_append_inj
          simp only [numbersBehind, List.cons_append, List.append_assoc,
            (List.cons.inj htext).2]

/-! ## Pieces of a pairing -/

theorem Position.toList_text (position : Position) :
    position.text.toList =
      '(' :: (Nat.toDigits 10 position.row ++
        ',' :: ' ' :: (Nat.toDigits 10 position.column ++ [')'])) := by
  simp only [Position.text, String.toList_append, toList_toString, List.append_assoc]
  rfl

theorem Position.legible_text : Legible Position.text := by
  intro left right leftRest rightRest htext
  simp only [toList_text, List.cons_append, List.append_assoc, List.cons.injEq, true_and,
    List.nil_append] at htext
  obtain ⟨hrow, hbehind⟩ := toDigits_append_inj (endsNumber_cons (by decide) _)
    (endsNumber_cons (by decide) _) htext
  simp only [List.cons.injEq, true_and] at hbehind
  obtain ⟨hcolumn, hrest⟩ := toDigits_append_inj (endsNumber_cons (by decide) _)
    (endsNumber_cons (by decide) _) hbehind
  exact ⟨Position.ext hrow hcolumn, (List.cons.inj hrest).2⟩

theorem Diet.legible_name : Legible Diet.name := by
  intro left right leftRest rightRest htext
  cases left with
  | vegan =>
      cases right with
      | vegan => exact ⟨rfl, List.append_cancel_left htext⟩
      | nonVegetarian => exact absurd (List.cons.inj htext).1 (by decide)
  | nonVegetarian =>
      cases right with
      | vegan => exact absurd (List.cons.inj htext).1 (by decide)
      | nonVegetarian => exact ⟨rfl, List.append_cancel_left htext⟩

namespace Pairing

/-- What the line of a pairing shows for the place of its person. -/
def placeText (place : Option Position) : String := (place.map Position.text).getD "Unknown"

/-- A position begins with a parenthesis, so it is not taken for an unknown place. -/
theorem legible_placeText : Legible placeText := by
  intro left right leftRest rightRest htext
  cases left with
  | none =>
      cases right with
      | none => exact ⟨rfl, List.append_cancel_left htext⟩
      | some position =>
          simp only [placeText, Option.map_some, Option.getD_some, Position.toList_text] at htext
          exact absurd (List.cons.inj htext).1 (by decide)
  | some position =>
      cases right with
      | none =>
          simp only [placeText, Option.map_some, Option.getD_some, Position.toList_text] at htext
          exact absurd (List.cons.inj htext).1 (by decide)
      | some other =>
          obtain ⟨hposition, hrest⟩ := Position.legible_text htext
          exact ⟨congrArg some hposition, hrest⟩

theorem toList_text (pairing : Pairing) :
    pairing.text.toList =
      "Person ".toList ++ (Nat.toDigits 10 pairing.person ++
        (" at ".toList ++ ((placeText pairing.place).toList ++
          (": dietary ".toList ++ (pairing.diet.name.toList ++
            (" at ".toList ++ pairing.dish.text.toList)))))) := by
  simp only [Pairing.text, String.toList_append, toList_toString, List.append_assoc]
  rfl

theorem legible_text : Legible Pairing.text := by
  intro left right leftRest rightRest htext
  simp only [toList_text, List.append_assoc, List.append_cancel_left_eq] at htext
  obtain ⟨hperson, hplace⟩ :=
    toDigits_append_inj (endsNumber_blank rfl _) (endsNumber_blank rfl _) htext
  obtain ⟨hplace, hdiet⟩ := legible_placeText (List.append_cancel_left hplace)
  obtain ⟨hdiet, hdish⟩ := Diet.legible_name (List.append_cancel_left hdiet)
  obtain ⟨hdish, hrest⟩ := Position.legible_text (List.append_cancel_left hdish)
  refine ⟨?_, hrest⟩
  cases left
  cases right
  simp only [Pairing.mk.injEq]
  exact ⟨hperson, hdiet, hplace, hdish⟩

end Pairing

end DishPlanner

import Mathlib.Data.Option.Basic
import DishPlanner.Json.Printer
import DishPlanner.Json.Reader

/-!
# Numbers and strings in JSON text

The reader takes back what the printer writes: blanks are skipped, the digits of
a number that fits a word are read as this number, and every character of a
string is found behind its escape.
-/

namespace DishPlanner.Json

/-! ## Blanks -/

/-- A character that may stand between the signs of a text. -/
def isBlank (c : Char) : Bool := c = ' ' || c = '\n' || c = '\t' || c = '\r'

/-- Only blanks. -/
def AllBlank (text : List Char) : Prop := ∀ c ∈ text, isBlank c = true

theorem allBlank_nil : AllBlank [] := by
  intro c hc
  cases hc

theorem skipBlanks_append {blanks : List Char} (hblanks : AllBlank blanks) (text : List Char) :
    skipBlanks (blanks ++ text) = skipBlanks text :=
  List.dropWhile_append_of_pos hblanks

theorem skipBlanks_cons {c : Char} (hc : isBlank c = false) (text : List Char) :
    skipBlanks (c :: text) = c :: text :=
  List.dropWhile_cons_of_neg (Bool.eq_false_iff.mp hc)

theorem skipBlanks_skipBlanks (text : List Char) :
    skipBlanks (skipBlanks text) = skipBlanks text := by
  have hblanks : AllBlank (text.takeWhile isBlank) :=
    fun c hc => List.all_eq_true.mp List.all_takeWhile c hc
  calc skipBlanks (skipBlanks text)
    _ = skipBlanks (text.takeWhile isBlank ++ skipBlanks text) :=
      (skipBlanks_append hblanks _).symm
    _ = skipBlanks text := congrArg skipBlanks List.takeWhile_append_dropWhile

/-- Blanks in front of a sign are skipped up to the sign. -/
theorem skipBlanks_sign {blanks : List Char} (hblanks : AllBlank blanks) (c : Char)
    (hc : isBlank c = false) (text : List Char) : skipBlanks (blanks ++ c :: text) = c :: text :=
  (skipBlanks_append hblanks _).trans (skipBlanks_cons hc text)

theorem allBlank_newLine (level : Nat) : AllBlank (newLine level) := by
  intro c hc
  rcases List.mem_cons.mp hc with rfl | hspace
  · rfl
  · rw [(List.mem_replicate.mp hspace).2]
    rfl

/-! ## Numbers -/

/-- A text that does not go on with a number. -/
def EndsNumber (text : List Char) : Prop :=
  ∀ c ∈ text.head?, c.isDigit = false ∧ c ≠ '.' ∧ c ≠ 'e' ∧ c ≠ 'E'

/-- A number ends where blanks and a sign follow. -/
theorem endsNumber_sign {blanks : List Char} (hblanks : AllBlank blanks) (c : Char)
    (hc : c.isDigit = false ∧ c ≠ '.' ∧ c ≠ 'e' ∧ c ≠ 'E') (text : List Char) :
    EndsNumber (blanks ++ c :: text) := by
  cases blanks with
  | nil =>
      rintro first ⟨rfl⟩
      exact hc
  | cons blank blanks =>
      have hblank := hblanks blank List.mem_cons_self
      simp only [isBlank, Bool.or_eq_true, decide_eq_true_eq] at hblank
      rintro first ⟨rfl⟩
      rcases hblank with ((rfl | rfl) | rfl) | rfl <;> decide

theorem le_ofDigitChars (digits : List Char) (start : Nat) :
    start ≤ Nat.ofDigitChars 10 digits start := by
  have hpower : 0 < 10 ^ digits.length := Nat.pow_pos (by decide)
  calc start
    _ ≤ 10 ^ digits.length * start := Nat.le_mul_of_pos_left start hpower
    _ ≤ 10 ^ digits.length * start + Nat.ofDigitChars 10 digits 0 := Nat.le_add_right _ _
    _ = Nat.ofDigitChars 10 digits start := Nat.ofDigitChars_eq_ofDigitChars_zero.symm

/-- Digits of a number that fits a word are all taken. -/
theorem absorb_eq {digits : List Char} {significand : Nat}
    (hfits : Nat.ofDigitChars 10 digits significand < wordCount) :
    absorb significand digits = (Nat.ofDigitChars 10 digits significand, []) := by
  induction digits generalizing significand with
  | nil => rfl
  | cons c digits ih =>
      rw [Nat.ofDigitChars_cons, Nat.mul_comm] at hfits ⊢
      have hlonger : significand * 10 + digitValue c < wordCount :=
        Nat.lt_of_le_of_lt (le_ofDigitChars digits _) hfits
      rw [absorb, if_pos hlonger]
      exact ih hfits

theorem absorb_toDigits {value : Nat} (hfits : value < wordCount) :
    absorb 0 (Nat.toDigits 10 value) = (value, []) := by
  rw [absorb_eq (by rwa [Nat.ofDigitChars_ten_toDigits]), Nat.ofDigitChars_ten_toDigits]

theorem isDigit_of_mem_toDigits (value : Nat) {c : Char} (hc : c ∈ Nat.toDigits 10 value) :
    c.isDigit = true :=
  Nat.isDigit_of_mem_toDigits (by decide) (by decide) hc

/-- No text of a number begins with a character that is no digit. -/
theorem toDigits_append_ne {value : Nat} {c : Char} (hc : c.isDigit = false)
    {rest text : List Char} : Nat.toDigits 10 value ++ rest ≠ c :: text := by
  intro htext
  cases hdigits : Nat.toDigits 10 value with
  | nil => exact absurd hdigits Nat.toDigits_ne_nil
  | cons first digits =>
      rw [hdigits, List.cons_append, List.cons.injEq] at htext
      have hfirst : first.isDigit = true :=
        isDigit_of_mem_toDigits value (hdigits ▸ List.mem_cons_self)
      rw [htext.1, hc] at hfirst
      cases hfirst

theorem skipBlanks_toDigits (value : Nat) (rest : List Char) :
    skipBlanks (Nat.toDigits 10 value ++ rest) = Nat.toDigits 10 value ++ rest := by
  cases hdigits : Nat.toDigits 10 value with
  | nil => exact absurd hdigits Nat.toDigits_ne_nil
  | cons first digits =>
      have hfirst : first.isDigit = true :=
        isDigit_of_mem_toDigits value (hdigits ▸ List.mem_cons_self)
      refine skipBlanks_cons (Bool.eq_false_iff.mpr fun hblank => ?_) (digits ++ rest)
      simp only [isBlank, Bool.or_eq_true, decide_eq_true_eq] at hblank
      rcases hblank with ((rfl | rfl) | rfl) | rfl <;> cases hfirst

/-- A number begins with a zero only if it is zero. -/
theorem head?_toDigits_ne {value : Nat} (hpositive : 0 < value) :
    (Nat.toDigits 10 value).head? ≠ some '0' := by
  induction value using Nat.strongRecOn with
  | ind value ih =>
      by_cases hsmall : value < 10
      · rw [Nat.toDigits_of_lt_base hsmall, List.head?_cons, ne_eq, Option.some.injEq,
          Nat.digitChar_eq_zero]
        omega
      · have hten : 10 ≤ value := Nat.le_of_not_lt hsmall
        have hfewer := ih (value / 10) (Nat.div_lt_self hpositive (by decide)) (by omega)
        rw [Nat.toDigits_of_base_le (by decide) hten, List.head?_append]
        cases hfirst : (Nat.toDigits 10 (value / 10)).head? with
        | none => exact absurd (List.head?_eq_none_iff.mp hfirst) Nat.toDigits_ne_nil
        | some first => rwa [hfirst] at hfewer

theorem takeDigits_append {digits rest : List Char} (hdigits : ∀ c ∈ digits, c.isDigit = true)
    (hrest : EndsNumber rest) : takeDigits (digits ++ rest) = (digits, rest) := by
  have hstop : rest.takeWhile Char.isDigit = [] ∧ rest.dropWhile Char.isDigit = rest := by
    cases rest with
    | nil => exact ⟨rfl, rfl⟩
    | cons c rest =>
        have hc := (hrest c rfl).1
        exact ⟨by simp [hc], by simp [hc]⟩
  rw [takeDigits, List.takeWhile_append_of_pos hdigits, List.dropWhile_append_of_pos hdigits,
    hstop.1, hstop.2, List.append_nil]

theorem takeFraction?_eq {rest : List Char} (hrest : EndsNumber rest) :
    takeFraction? rest = some ([], rest) := by
  unfold takeFraction?
  split
  next text => exact absurd rfl (hrest '.' rfl).2.1
  next => rfl

theorem takeExponent?_eq {rest : List Char} (hrest : EndsNumber rest) :
    takeExponent? rest = some (none, rest) := by
  unfold takeExponent?
  split
  case h_7 => rfl
  all_goals first
    | exact absurd rfl (hrest 'e' rfl).2.2.1
    | exact absurd rfl (hrest 'E' rfl).2.2.2

theorem number?_toDigits {value : Nat} (hfits : value < wordCount) :
    number? false (Nat.toDigits 10 value) [] none = some (.natural value) := by
  rw [number?, absorb_toDigits hfits]
  rfl

/-- The digits of a number that fits a word are read as this number. -/
theorem readNumber_toDigits {value : Nat} (hfits : value < wordCount) {rest : List Char}
    (hrest : EndsNumber rest) :
    readNumber (Nat.toDigits 10 value ++ rest) = some (.natural value, rest) := by
  have hdigits := takeDigits_append (fun _ => isDigit_of_mem_toDigits value) hrest
  have hwhole : (!(Nat.toDigits 10 value).isEmpty && ((Nat.toDigits 10 value).length = 1 ||
      (Nat.toDigits 10 value).head? ≠ some '0')) = true := by
    rcases Nat.eq_zero_or_pos value with rfl | hpositive
    · rfl
    · simp [head?_toDigits_ne hpositive, Nat.toDigits_ne_nil]
  unfold readNumber
  split
  next negative text hsign =>
    obtain ⟨rfl, rfl⟩ : negative = false ∧ text = Nat.toDigits 10 value ++ rest := by
      split at hsign
      next behind hminus => exact absurd hminus (toDigits_append_ne (by decide))
      next => exact ⟨(Prod.mk.inj hsign).1.symm, (Prod.mk.inj hsign).2.symm⟩
    rw [hdigits]
    simp only [(Option.guard_eq_some' ()).mpr hwhole, takeFraction?_eq hrest,
      takeExponent?_eq hrest, number?_toDigits hfits, Option.bind_eq_bind, Option.bind_some,
      Option.pure_def]

/-! ## Strings -/

theorem hexValue?_hexDigit :
    ∀ {value : Nat}, value < 16 → hexValue? (hexDigit value) = some value := by
  decide

/-- Two hexadecimal digits behind two zeros escape a character below U+0100. -/
theorem takeEscaped?_hexDigits {c : Char} (hsmall : c.toNat < 0x100) (rest : List Char) :
    takeEscaped? ('0' :: '0' :: hexDigit (c.toNat / 16) :: hexDigit (c.toNat % 16) :: rest) =
      some (c, rest) := by
  have hunit : takeUnit?
      ('0' :: '0' :: hexDigit (c.toNat / 16) :: hexDigit (c.toNat % 16) :: rest) =
        some (c.toNat, rest) := by
    have hzero : hexValue? '0' = some 0 := rfl
    have hvalue : 0 * 4096 + 0 * 256 + c.toNat / 16 * 16 + c.toNat % 16 = c.toNat := by omega
    rw [takeUnit?, hzero, hexValue?_hexDigit (by omega), hexValue?_hexDigit (by omega)]
    simp only [Option.bind_eq_bind, Option.bind_some, Option.pure_def, hvalue]
  have hfirst : ¬ (0xD800 ≤ c.toNat && c.toNat ≤ 0xDBFF) = true := by
    rw [Bool.and_eq_true, decide_eq_true_eq]
    omega
  have hsecond : (!(0xDC00 ≤ c.toNat && c.toNat ≤ 0xDFFF)) = true := by
    rw [Bool.not_eq_true', Bool.and_eq_false_iff, decide_eq_false_iff_not]
    omega
  rw [takeEscaped?, hunit, Option.bind_eq_bind, Option.bind_some]
  dsimp only
  rw [if_neg hfirst, (Option.guard_eq_some' ()).mpr hsecond, Option.bind_eq_bind,
    Option.bind_some, Char.ofNat_toNat]
  rfl

/-- The reader takes back a character from behind its escape. -/
theorem readString_escape (fuel : Nat) (taken : List Char) (c : Char) (rest : List Char) :
    readString (fuel + 1) taken (escape c ++ rest) = readString fuel (c :: taken) rest := by
  unfold escape
  split
  case h_8 hquote hbackslash _ _ _ _ _ =>
    split
    next hcontrol =>
      have hescaped := takeEscaped?_hexDigits (c := c) (by omega) rest
      simp only [List.cons_append, List.nil_append, readString, hescaped]
    next hplain =>
      rw [List.singleton_append, readString, if_neg hplain]
      · exact hquote
      · exact fun _ h _ => hbackslash h
      · exact fun _ _ h _ => hbackslash h
  all_goals rfl

theorem readString_flatMap_escape {characters : List Char} {fuel : Nat}
    (hfuel : characters.length < fuel) (taken rest : List Char) :
    readString fuel taken (characters.flatMap escape ++ '"' :: rest) =
      some (String.ofList (taken.reverse ++ characters), rest) := by
  induction characters generalizing fuel taken with
  | nil =>
      obtain ⟨fuel, rfl⟩ := Nat.exists_eq_succ_of_ne_zero (Nat.ne_of_gt hfuel)
      rw [List.append_nil]
      rfl
  | cons c characters ih =>
      have hsome : fuel ≠ 0 := Nat.ne_of_gt (Nat.zero_lt_of_lt hfuel)
      obtain ⟨fuel, rfl⟩ := Nat.exists_eq_succ_of_ne_zero hsome
      rw [List.flatMap_cons, List.append_assoc, readString_escape,
        ih (Nat.lt_of_succ_lt_succ hfuel), List.reverse_cons, List.append_assoc]
      rfl

theorem length_le_length_flatMap_escape (characters : List Char) :
    characters.length ≤ (characters.flatMap escape).length := by
  have hescape : ∀ c : Char, 1 ≤ (escape c).length := by
    intro c
    unfold escape
    split
    case h_8 => split <;> exact Nat.le_add_left _ _
    all_goals exact Nat.le_add_left _ _
  induction characters with
  | nil => exact Nat.le_refl _
  | cons c characters ih =>
      rw [List.flatMap_cons, List.length_append, List.length_cons, Nat.add_comm]
      exact Nat.add_le_add (hescape c) ih

theorem writeString_append (text : String) (rest : List Char) :
    writeString text ++ rest = '"' :: (text.toList.flatMap escape ++ '"' :: rest) := by
  rw [writeString, List.append_assoc]
  rfl

/-- A string is read back from behind its opening quotation mark. -/
theorem readString_written {text : String} {fuel : Nat}
    (hfuel : (writeString text).length ≤ fuel + 1) (rest : List Char) :
    readString fuel [] (text.toList.flatMap escape ++ '"' :: rest) = some (text, rest) := by
  have hlength := length_le_length_flatMap_escape text.toList
  rw [writeString, List.length_append, List.length_cons, List.length_singleton] at hfuel
  rw [readString_flatMap_escape (by omega), List.reverse_nil, List.nil_append,
    String.ofList_toList]

end DishPlanner.Json

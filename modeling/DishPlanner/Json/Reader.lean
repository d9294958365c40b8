import DishPlanner.Json.Value
import DishPlanner.Word

/-!
# Reading JSON text

A reader takes the value at the front of a list of characters and gives it with
the characters behind it.  `fuel` bounds the depth of the recursion; twice the
length of the text is always enough, because no character costs more than two
levels.

A number without fraction and exponent is exact when it fits the 64-bit ranges.
Every other number is the product of a significand, which takes the digits as
long as they fit a word, and a power of ten, computed in floating point.
-/

namespace DishPlanner.Json

def skipBlanks (text : List Char) : List Char :=
  text.dropWhile fun c => c = ' ' || c = '\n' || c = '\t' || c = '\r'

def expect? : List Char → List Char → Option (List Char)
  | [], text => some text
  | wanted :: word, c :: text => if wanted = c then expect? word text else none
  | _ :: _, [] => none

def digitValue (c : Char) : Nat := c.toNat - '0'.toNat

/-- Appends digits to a significand as long as it fits a word, and gives those left over. -/
def absorb : Nat → List Char → Nat × List Char
  | significand, [] => (significand, [])
  | significand, c :: digits =>
      let longer := significand * 10 + digitValue c
      if longer < wordCount then absorb longer digits else (significand, c :: digits)

/-- Scales a floating-point number by a power of ten; `none` when it would be infinite. -/
def scale (steps : Nat) (value : Float) (exponent : Int) : Option Float :=
  if exponent.natAbs ≤ 308 then
    let power := Float.ofScientific 1 false exponent.natAbs
    if 0 ≤ exponent then
      let product := value * power
      if product.isInf then none else some product
    else some (value / power)
  else if value == 0 then some value
  else if 0 ≤ exponent then none
  else
    match steps with
    | 0 => some 0
    | steps + 1 => scale steps (value / Float.ofScientific 1 false 308) (exponent + 308)

/-- The number of a sign, the digits in front of and behind the point, and an exponent. -/
def number? (negative : Bool) (whole part : List Char) (exponent : Option Int) : Option Number :=
  let (significand, wholeLeft) := absorb 0 whole
  let signed (value : Float) : Number := .floating (if negative then -value else value).toBits
  if wholeLeft.isEmpty && part.isEmpty && exponent.isNone then
    if !negative then some (.natural significand)
    else if 0 < significand && 2 * significand ≤ wordCount then some (.negative significand)
    else some (signed significand.toUInt64.toFloat)
  else
    let (significand, partLeft) := absorb significand part
    let shift : Int := Int.ofNat wholeLeft.length - Int.ofNat (part.length - partLeft.length)
    (scale 4 significand.toUInt64.toFloat (shift + exponent.getD 0)).map signed

def takeDigits (text : List Char) : List Char × List Char :=
  (text.takeWhile Char.isDigit, text.dropWhile Char.isDigit)

def takeFraction? : List Char → Option (List Char × List Char)
  | '.' :: text =>
      let (digits, rest) := takeDigits text
      if digits.isEmpty then none else some (digits, rest)
  | text => some ([], text)

/-- A size of exponents beyond any finite number. -/
def largestExponent : Nat := 1000000000

/-- Takes the digits of an exponent; exponents beyond any number are cut. -/
def takeExponentDigits? (negative : Bool) (text : List Char) : Option (Option Int × List Char) :=
  let (digits, rest) := takeDigits text
  if digits.isEmpty then none
  else
    let size := min (absorb 0 digits).1 largestExponent
    some (some (if negative then -Int.ofNat size else Int.ofNat size), rest)

def takeExponent? : List Char → Option (Option Int × List Char)
  | 'e' :: '-' :: text | 'E' :: '-' :: text => takeExponentDigits? true text
  | 'e' :: '+' :: text | 'E' :: '+' :: text => takeExponentDigits? false text
  | 'e' :: text | 'E' :: text => takeExponentDigits? false text
  | text => some (none, text)

/-- Reads a number; a leading zero stands alone. -/
def readNumber (text : List Char) : Option (Number × List Char) := do
  let (negative, text) := match text with
    | '-' :: rest => (true, rest)
    | _ => (false, text)
  let (whole, text) := takeDigits text
  guard (!whole.isEmpty && (whole.length = 1 || whole.head? ≠ some '0'))
  let (part, text) ← takeFraction? text
  let (exponent, text) ← takeExponent? text
  return (← number? negative whole part exponent, text)

def hexValue? (c : Char) : Option Nat :=
  if c.isDigit then some (c.toNat - '0'.toNat)
  else if 'a' ≤ c && c ≤ 'f' then some (c.toNat - 'a'.toNat + 10)
  else if 'A' ≤ c && c ≤ 'F' then some (c.toNat - 'A'.toNat + 10)
  else none

def takeUnit? : List Char → Option (Nat × List Char)
  | a :: b :: c :: d :: text => do
      let unit := (← hexValue? a) * 4096 + (← hexValue? b) * 256 + (← hexValue? c) * 16 +
        (← hexValue? d)
      return (unit, text)
  | _ => none

/-- Takes the character of an escape in hexadecimal: one unit, or a pair of surrogates. -/
def takeEscaped? (text : List Char) : Option (Char × List Char) := do
  let (unit, text) ← takeUnit? text
  if 0xD800 ≤ unit && unit ≤ 0xDBFF then
    match text with
    | '\\' :: 'u' :: text =>
        let (low, text) ← takeUnit? text
        guard (0xDC00 ≤ low && low ≤ 0xDFFF)
        return (Char.ofNat (0x10000 + (unit - 0xD800) * 1024 + (low - 0xDC00)), text)
    | _ => none
  else
    guard (!(0xDC00 ≤ unit && unit ≤ 0xDFFF))
    return (Char.ofNat unit, text)

/-- Reads the characters of a string up to its closing quotation mark; `taken` holds those before,
the latest first. -/
def readString (fuel : Nat) (taken : List Char) (text : List Char) :
    Option (String × List Char) :=
  match fuel with
  | 0 => none
  | fuel + 1 =>
      match text with
      | '"' :: text => some (String.ofList taken.reverse, text)
      | '\\' :: 'u' :: text =>
          match takeEscaped? text with
          | none => none
          | some (c, text) => readString fuel (c :: taken) text
      | '\\' :: c :: text =>
          match c with
          | '"' | '\\' | '/' => readString fuel (c :: taken) text
          | 'b' => readString fuel ('\x08' :: taken) text
          | 'f' => readString fuel ('\x0c' :: taken) text
          | 'n' => readString fuel ('\n' :: taken) text
          | 'r' => readString fuel ('\r' :: taken) text
          | 't' => readString fuel ('\t' :: taken) text
          | _ => none
      | c :: text => if c.toNat < 0x20 then none else readString fuel (c :: taken) text
      | [] => none

mutual

/-- Reads the value at the front, behind blanks. -/
def readValue (fuel : Nat) (text : List Char) : Option (Json × List Char) :=
  match fuel with
  | 0 => none
  | fuel + 1 =>
      match skipBlanks text with
      | 'n' :: text => (expect? ['u', 'l', 'l'] text).map fun rest => (.null, rest)
      | 't' :: text => (expect? ['r', 'u', 'e'] text).map fun rest => (.bool true, rest)
      | 'f' :: text => (expect? ['a', 'l', 's', 'e'] text).map fun rest => (.bool false, rest)
      | '"' :: text => (readString fuel [] text).map fun (read, rest) =>
          (.string read, rest)
      | '[' :: text =>
          match skipBlanks text with
          | ']' :: rest => some (.array [], rest)
          | text => readItems fuel [] text
      | '\x7b' :: text =>
          match skipBlanks text with
          | '\x7d' :: rest => some (.object [], rest)
          | text => readMembers fuel [] text
      | text => (readNumber text).map fun (read, rest) => (.number read, rest)

def readItems (fuel : Nat) (taken : List Json) (text : List Char) : Option (Json × List Char) :=
  match fuel with
  | 0 => none
  | fuel + 1 =>
      match readValue fuel text with
      | none => none
      | some (item, text) =>
          match skipBlanks text with
          | ',' :: text => readItems fuel (item :: taken) text
          | ']' :: text => some (.array (item :: taken).reverse, text)
          | _ => none

def readMembers (fuel : Nat) (taken : List (String × Json)) (text : List Char) :
    Option (Json × List Char) :=
  match fuel with
  | 0 => none
  | fuel + 1 =>
      match skipBlanks text with
      | '"' :: text =>
          match readString fuel [] text with
          | none => none
          | some (name, text) =>
              match skipBlanks text with
              | ':' :: text =>
                  match readValue fuel text with
                  | none => none
                  | some (value, text) =>
                      match skipBlanks text with
                      | ',' :: text => readMembers fuel ((name, value) :: taken) text
                      | '\x7d' :: text => some (.object ((name, value) :: taken).reverse, text)
                      | _ => none
              | _ => none
      | _ => none

end

/-- Reads a text that holds one value and blanks around it. -/
def parse (text : String) : Option Json := do
  let characters := text.toList
  let (value, rest) ← readValue (2 * characters.length + 1) characters
  guard (skipBlanks rest).isEmpty
  return value

end DishPlanner.Json

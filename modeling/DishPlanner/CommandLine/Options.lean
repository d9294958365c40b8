import DishPlanner.Word

/-!
# Command line options

Options are found by scanning the words, which are the decoded arguments of a
program: a flag that takes a value takes the word behind its first occurrence.  A
value that is no 64-bit number counts as missing, and unknown words are ignored.
-/

namespace DishPlanner

/-- What the command line asks for. -/
structure Options where
  seed : Option UInt64
  people : Nat
  verbose : Bool
  json : Bool
deriving DecidableEq, Repr

namespace Options

/-- The number of people when none is given. -/
def defaultPeople : Nat := 8

/-- The number that decimal digits write, if there are any and nothing else. -/
def digitsValue? (digits : List Char) : Option Nat :=
  if digits.isEmpty || !digits.all Char.isDigit then none
  else some (digits.foldl (fun value digit => value * 10 + (digit.toNat - '0'.toNat)) 0)

/-- The 64-bit number that a word writes: decimal digits, with or without a plus sign. -/
def wordValue? (word : String) : Option Nat :=
  let value? := match word.toList with
    | '+' :: digits => digitsValue? digits
    | digits => digitsValue? digits
  value?.filter fun value => value < wordCount

/-- The value of a flag. -/
def valueOf? (flag : String) (words : List String) : Option Nat :=
  match words.dropWhile fun word => word ≠ flag with
  | _ :: value :: _ => wordValue? value
  | _ => none

/-- The options that a list of words gives.  What is no text has been refused before. -/
def ofWords (words : List String) : Options where
  seed := (valueOf? "--seed" words).map UInt64.ofNat
  people := (valueOf? "--people" words).getD defaultPeople
  verbose := words.contains "--verbose"
  json := words.contains "--json"

end Options

end DishPlanner

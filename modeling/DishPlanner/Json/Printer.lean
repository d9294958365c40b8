import DishPlanner.Json.Value
import DishPlanner.Text.Decimal

/-!
# JSON text

Values are written in two layouts: `Json.compact` without any blank, and
`Json.pretty` with one line per item and two blanks per level.  Both write
strings alike: the quotation mark, the backslash and the characters below
U+0020 are escaped and every other character stands for itself.
-/

namespace DishPlanner.Json

/-- The hexadecimal digit of a number below sixteen. -/
def hexDigit (value : Nat) : Char := Nat.digitChar value

/-- The characters that write one character of a string. -/
def escape (character : Char) : List Char :=
  match character with
  | '"' => ['\\', '"']
  | '\\' => ['\\', '\\']
  | '\x08' => ['\\', 'b']
  | '\x0c' => ['\\', 'f']
  | '\n' => ['\\', 'n']
  | '\r' => ['\\', 'r']
  | '\t' => ['\\', 't']
  | _ =>
      if character.toNat < 0x20 then
        ['\\', 'u', '0', '0', hexDigit (character.toNat / 16), hexDigit (character.toNat % 16)]
      else [character]

/-- A string between quotation marks. -/
def writeString (text : String) : List Char :=
  '"' :: text.toList.flatMap escape ++ ['"']

def writeNumber : Number → List Char
  | .natural value => Nat.toDigits 10 value
  | .negative value => '-' :: Nat.toDigits 10 value
  | .floating bits => Text.Decimal.text bits

mutual

/-- A value without blanks. -/
def write : Json → List Char
  | .null => ['n', 'u', 'l', 'l']
  | .bool value => if value then ['t', 'r', 'u', 'e'] else ['f', 'a', 'l', 's', 'e']
  | .number value => writeNumber value
  | .string text => writeString text
  | .array [] => ['[', ']']
  | .array (item :: items) => '[' :: (write item ++ writeItems items)
  | .object [] => ['\x7b', '\x7d']
  | .object ((name, value) :: members) =>
      '\x7b' :: (writeString name ++ ':' :: (write value ++ writeMembers members))

def writeItems : List Json → List Char
  | [] => [']']
  | item :: items => ',' :: (write item ++ writeItems items)

def writeMembers : List (String × Json) → List Char
  | [] => ['\x7d']
  | (name, value) :: members =>
      ',' :: (writeString name ++ ':' :: (write value ++ writeMembers members))

end

def newLine (level : Nat) : List Char := '\n' :: List.replicate (2 * level) ' '

mutual

/-- A value that begins at a level, with one line per item. -/
def writeIndented (level : Nat) : Json → List Char
  | .null => ['n', 'u', 'l', 'l']
  | .bool value => if value then ['t', 'r', 'u', 'e'] else ['f', 'a', 'l', 's', 'e']
  | .number value => writeNumber value
  | .string text => writeString text
  | .array [] => ['[', ']']
  | .array (item :: items) =>
      '[' :: (newLine (level + 1) ++ (writeIndented (level + 1) item ++
        writeIndentedItems level items))
  | .object [] => ['\x7b', '\x7d']
  | .object ((name, value) :: members) =>
      '\x7b' :: (newLine (level + 1) ++ (writeString name ++ ':' :: ' ' ::
        (writeIndented (level + 1) value ++ writeIndentedMembers level members)))

def writeIndentedItems (level : Nat) : List Json → List Char
  | [] => newLine level ++ [']']
  | item :: items =>
      ',' :: (newLine (level + 1) ++ (writeIndented (level + 1) item ++
        writeIndentedItems level items))

def writeIndentedMembers (level : Nat) : List (String × Json) → List Char
  | [] => newLine level ++ ['\x7d']
  | (name, value) :: members =>
      ',' :: (newLine (level + 1) ++ (writeString name ++ ':' :: ' ' ::
        (writeIndented (level + 1) value ++ writeIndentedMembers level members)))

end

/-- The text of a value without blanks. -/
def compact (json : Json) : String := String.ofList (write json)

/-- The text of a value with one line per item. -/
def pretty (json : Json) : String := String.ofList (writeIndented 0 json)

end DishPlanner.Json

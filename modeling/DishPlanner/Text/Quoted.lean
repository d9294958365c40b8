import DishPlanner.Text.Combining
import DishPlanner.Text.Unprintable

/-!
# Quoted text in messages

A message that shows a text puts it between quotation marks and writes what a
reader could not see or would misread as an escape: the quotation mark, the
backslash, the common controls by a letter, and every combining or shapeless
character by its code point in hexadecimal.
-/

namespace DishPlanner.Text

/-- The characters that show one character of a quoted text. -/
def escapeVisible (character : Char) : List Char :=
  match character with
  | '\x00' => ['\\', '0']
  | '\t' => ['\\', 't']
  | '\r' => ['\\', 'r']
  | '\n' => ['\\', 'n']
  | '\\' => ['\\', '\\']
  | '"' => ['\\', '"']
  | _ =>
      if isCombining character || isUnprintable character then
        ['\\', 'u', '\x7b'] ++ Nat.toDigits 16 character.toNat ++ ['\x7d']
      else [character]

/-- A text between quotation marks, with everything in it visible. -/
def quoted (text : String) : String :=
  String.ofList (['"'] ++ text.toList.flatMap escapeVisible ++ ['"'])

end DishPlanner.Text

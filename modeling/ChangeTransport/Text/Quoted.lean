import ChangeTransport.Text.Digit
import ChangeTransport.Text.Hidden

/-!
# Quoted texts

The form in which a text is shown to a reader who has to see where it ends: between double quotes,
with the quote and the backslash behind a backslash, the common controls by a letter, and every
other character without a visible form by its number.
-/

namespace ChangeTransport.Text

/-- How one character stands in a quoted text. -/
def quoteCharacter (character : Char) : List Char :=
  match character with
  | '"' => ['\\', '"']
  | '\\' => ['\\', '\\']
  | '\n' => ['\\', 'n']
  | '\r' => ['\\', 'r']
  | '\t' => ['\\', 't']
  | '\x00' => ['\\', '0']
  | _ =>
    if isHidden character then
      '\\' :: 'u' :: '\x7b' :: (hexOfPoint character.toNat ++ ['\x7d'])
    else
      [character]

/-- A text between quotes. -/
def quote (text : String) : String :=
  String.ofList ('"' :: (text.toList.flatMap quoteCharacter ++ ['"']))

/-- A list of texts, each between quotes, in square brackets. -/
def quoteAll (texts : List String) : String :=
  "[" ++ ", ".intercalate (texts.map quote) ++ "]"

end ChangeTransport.Text

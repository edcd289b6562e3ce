/-!
# Blanks

The characters with the Unicode property White_Space, and texts without those at their ends.
-/

namespace ChangeTransport.Text

/-- Whether a character has the property White_Space. -/
def isBlank (character : Char) : Bool :=
  let point := character.toNat
  (0x09 ≤ point && point ≤ 0x0D) || point == 0x20 || point == 0x85 || point == 0xA0 ||
    point == 0x1680 || (0x2000 ≤ point && point ≤ 0x200A) || point == 0x2028 ||
    point == 0x2029 || point == 0x202F || point == 0x205F || point == 0x3000

/-- A list of characters without those at its two ends that satisfy `drop`. -/
def stripWhere (drop : Char → Bool) (characters : List Char) : List Char :=
  ((characters.dropWhile drop).reverse.dropWhile drop).reverse

/-- A list of characters without those at its end that satisfy `drop`. -/
def stripEndWhere (drop : Char → Bool) (characters : List Char) : List Char :=
  (characters.reverse.dropWhile drop).reverse

/-- A text without the blanks at its two ends. -/
def trimBlanks (text : String) : String :=
  String.ofList (stripWhere isBlank text.toList)

end ChangeTransport.Text

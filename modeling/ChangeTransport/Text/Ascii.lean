/-!
# Letters without case

Comparison of texts that ignores the case of the letters from `A` to `Z` and of no other.
-/

namespace ChangeTransport.Text

/-- The small letter of a capital from `A` to `Z`; every other character is left as it is. -/
def lowerAscii (character : Char) : Char :=
  if 'A' ≤ character ∧ character ≤ 'Z' then
    Char.ofNat (character.toNat + 32)
  else
    character

/-- Whether two lists of characters differ at most in the case of their ASCII letters. -/
def sameIgnoringCaseList (first second : List Char) : Bool :=
  first.map lowerAscii == second.map lowerAscii

/-- Whether two texts differ at most in the case of their ASCII letters. -/
def sameIgnoringCase (first second : String) : Bool :=
  sameIgnoringCaseList first.toList second.toList

end ChangeTransport.Text
